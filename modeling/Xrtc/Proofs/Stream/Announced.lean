import Xrtc.Proofs.Stream.OfferRead
import Xrtc.Proofs.Stream.WorkerStreams

/-!
# `Xrtc.Proofs.Stream.Announced`: the tracks that a pull stream announces

The tracks of a client are in its answer to the offer of a push stream. A pull stream copies
them from the push stream of its name, and its own offer announces them to another client.
`announced_of_run` follows them through every run: the offer of a pull stream has the tracks of
an answer that the worker got before for a push stream of this name, or none. Its text is read
again as these tracks, if the events bring only what can be printed (`Prepared`): credentials
from the alphabet they are drawn from, fingerprints, host candidates, and tracks whose texts have
none of the keys that the parser looks for.

What a run has done to a stream is kept in `History`, which speaks of the events so far.
-/

set_option autoImplicit false

namespace Xrtc.Proofs.Stream

open Xrtc.Base
open Xrtc.Lib
open Xrtc.Ice (ascii)
open Xrtc.Pc
open Xrtc.Stream
open Xrtc.Proofs.Pc
open Xrtc.Proofs.Sdk (IsRandomString IsHostCandidate mid_injective loopbackCandidate drawn
  drawn_spec)

variable {ssl : Nat → SslAdapter} {crypto : SrtpCrypto} {ntop6 : Vector UInt8 16 → Bytes}
  {w : MediaWorker}

/-! ### Tracks of answers -/

/-- The tracks of a section of a description, or none if it has no such section. -/
def tracksIn (d : SessionDescription) (type : MediaType) : List StreamParams :=
  ((d.getContent type.mid).map MediaContentDescription.sendStreams).getD []

/-- The tracks of an accepted answer of a push stream with this name, or none. -/
def AnsweredTracks (es : List MediaWorker.Event) (name : String)
    (tracks : MediaType → List StreamParams) : Prop :=
  (∀ type, tracks type = []) ∨
    ∃ uid sdp r, .answer uid name sdp "push" ∈ es ∧ RemoteSdp.parseLines {} (sdpFields sdp) = .ok r ∧
      ∀ type, tracks type = tracksIn r.description type

/-- Tracks that were answered stay so over more events. -/
theorem AnsweredTracks.mono {es es' : List MediaWorker.Event} {name : String}
    {tracks : MediaType → List StreamParams} (h : AnsweredTracks es name tracks) (hes : es ⊆ es') :
    AnsweredTracks es' name tracks := by
  refine h.imp_right ?_
  rintro ⟨uid, sdp, r, hmem, hr⟩
  exact ⟨uid, sdp, r, hes hmem, hr⟩

/-- The tracks of a kind are those of its first section, or there is no such section. -/
theorem tracksIn_cases (d : SessionDescription) (type : MediaType) :
    ((∀ content ∈ d.contents, content.mid ≠ type.mid) ∧ tracksIn d type = []) ∨
      ∃ content ∈ d.contents, content.mid = type.mid ∧ tracksIn d type = content.sendStreams := by
  unfold tracksIn
  cases hfind : d.getContent type.mid with
  | none =>
      refine .inl ⟨fun content hcontent hmid => ?_, rfl⟩
      have hother := List.find?_eq_none.mp hfind content hcontent
      simp [hmid] at hother
  | some content =>
      have hmid := List.find?_some hfind
      rw [decide_eq_true_eq] at hmid
      exact .inr ⟨content, List.mem_of_find?_eq_some hfind, hmid.symm, rfl⟩

/-- Before the last line has been read no section has tracks. -/
theorem tracksIn_partialDescription (r : RemoteSdp) (type : MediaType) :
    tracksIn r.partialDescription type = [] := by
  rcases tracksIn_cases r.partialDescription type with ⟨-, hempty⟩ | ⟨content, hcontent, -, htracks⟩
  · exact hempty
  · obtain ⟨other, -, rfl⟩ := List.mem_map.mp hcontent
    rw [htracks]
    cases other <;> rfl

/-- In a description that was parsed, these are the tracks of the section of that kind. -/
theorem tracksIn_description (r : RemoteSdp) (type : MediaType) :
    tracksIn r.description type = if type ∈ r.contents then (sectionAt r type).tracks else [] := by
  rcases tracksIn_cases r.description type with ⟨hnone, hempty⟩ | ⟨content, hcontent, hmid, htracks⟩
  · rw [if_neg, hempty]
    intro hmem
    -- a section of this type is found
    have hmids := List.mem_map_of_mem (f := MediaType.mid) hmem
    rw [← mids_description] at hmids
    obtain ⟨content, hcontent, hmid⟩ := List.mem_map.mp hmids
    exact hnone content hcontent hmid
  · obtain ⟨other, hmem, rfl⟩ := List.mem_map.mp hcontent
    have hother : other = type := by
      apply mid_injective
      rw [← hmid]
      cases other <;> rfl
    subst hother
    rw [htracks, if_pos hmem]
    cases other <;> rfl

/-- The tracks of an accepted answer. -/
theorem acceptedTracks_description {sdp : Bytes} {r : RemoteSdp}
    (h : RemoteSdp.parseLines {} (sdpFields sdp) = .ok r) (type : MediaType) :
    AcceptedTracks type (tracksIn r.description type) := by
  rw [tracksIn_description]
  split_ifs
  · exact ⟨sdp, r, h, rfl⟩
  · exact acceptedTracks_nil type

/-! ### What a run has done to a stream -/

/-- The remote description of a push stream has the tracks of an answer. The offer of a pull
stream was made of such tracks. -/
structure History (ntop6 : Vector UInt8 16 → Bytes) (es : List MediaWorker.Event)
    (s : RtcStream PeerConnection) : Prop where
  remote : s.streamType = .push → ∀ d, s.pc.remoteDesc = some d →
    AnsweredTracks es s.streamName (tracksIn d)
  offer : s.streamType = .pull → ∃ certificate draw tracks,
    .pull s.uid s.streamName s.audio s.video s.logId certificate draw ∈ es ∧
      AnsweredTracks es s.streamName tracks ∧
      s.pc.localDesc = (offeredStream ntop6 draw certificate { s with
        pc := { audioSource := tracks .audio, videoSource := tracks .video } }).pc.localDesc

/-- A later step that leaves the descriptions alone. -/
theorem History.same {es es' : List MediaWorker.Event} {s s' : RtcStream PeerConnection}
    (h : History ntop6 es s) (hes : es ⊆ es') {pc : PeerConnection} (hs : s' = { s with pc })
    (hremote : pc.remoteDesc = s.pc.remoteDesc) (hlocal : pc.localDesc = s.pc.localDesc) :
    History ntop6 es' s' := by
  subst hs
  constructor
  · intro htype d hd
    exact (h.remote htype d (hremote.symm.trans hd)).mono hes
  · intro htype
    obtain ⟨certificate, draw, tracks, hmem, htracks, hoffer⟩ := h.offer htype
    exact ⟨certificate, draw, tracks, hes hmem, htracks.mono hes, hlocal.trans hoffer⟩

/-- The sources of the stream at `p`. -/
def sourceTracks (m : RtcStreamManager PeerConnection) (p : Nat) : MediaType → List StreamParams
  | .audio => sourceOf m p "audio"
  | .video => sourceOf m p "video"

/-- The tracks of a source are those of its answer, if it has one. -/
theorem sourceTracks_eq (m : RtcStreamManager PeerConnection) (p : Nat) (type : MediaType) :
    sourceTracks m p type
      = (((m.heap p).bind fun s => s.pc.remoteDesc).map fun d => tracksIn d type).getD [] := by
  cases hheap : m.heap p with
  | none => cases type <;> simp [sourceTracks, sourceOf, hheap]
  | some s =>
      cases hremote : s.pc.remoteDesc with
      | none => cases type <;> simp [sourceTracks, sourceOf, hheap, hremote]
      | some d =>
          cases type <;> simp [sourceTracks, sourceOf, hheap, hremote, tracksIn, MediaType.mid]

/-- What a pull stream gets from the push stream that is found under its name. -/
theorem answeredTracks_source {es : List MediaWorker.Event} (hentries : Entries w.manager)
    (h : ∀ p s, w.manager.heap p = some s → History ntop6 es s) {name : String} {p : Nat}
    (hp : w.manager.pushStreams name = some p) (uid : UInt64) :
    AnsweredTracks es name (sourceTracks (w.manager.removePullStream uid name) p) := by
  cases hremote : ((w.manager.removePullStream uid name).heap p).bind fun s => s.pc.remoteDesc with
  | none =>
      left
      intro type
      rw [sourceTracks_eq, hremote]
      rfl
  | some d =>
      -- the stream was there before, and it is the push stream of the name
      obtain ⟨stream, hheap, hdesc⟩ := Option.bind_eq_some_iff.mp hremote
      have hold : w.manager.heap p = some stream := heap_of_removeStream hheap
      obtain ⟨push, hpush, htype, hname⟩ := hentries.entry .push name p hp
      rw [hold] at hpush
      cases hpush
      have htracks : sourceTracks (w.manager.removePullStream uid name) p = tracksIn d := by
        funext type
        rw [sourceTracks_eq, hremote]
        rfl
      rw [htracks, ← hname]
      exact (h p stream hold).remote htype d hdesc

/-- A new stream has no remote description. -/
theorem offeredStream_remoteDesc (draw : OfferDraw) (certificate : Option LocalCertificate)
    (stream : RtcStream PeerConnection) :
    (offeredStream ntop6 draw certificate stream).pc.remoteDesc = stream.pc.remoteDesc := by
  show ((initPeerConnection stream.pc certificate).createOffer ntop6 draw.allocated
    (offerAnswerOptions stream.offerOptions) draw.iceParam).2.remoteDesc = _
  unfold PeerConnection.createOffer
  split <;> rfl

/-- A stream that an event has created. -/
theorem history_of_created {es : List MediaWorker.Event} (hentries : Entries w.manager)
    (h : ∀ p s, w.manager.heap p = some s → History ntop6 es s) {e : MediaWorker.Event}
    {s : RtcStream PeerConnection} (hcreated : Created ntop6 w.manager e s) :
    History ntop6 (es ++ [e]) s := by
  cases hcreated with
  | push uid name audio video logId certificate draw =>
      constructor
      · intro _ d hd
        rw [offeredStream_remoteDesc] at hd
        cases hd
      · intro htype
        cases htype
  | pull uid name audio video logId certificate draw hp =>
      rename_i push
      have htracks := (answeredTracks_source hentries h hp uid).mono (List.subset_append_left es
        [.pull uid name audio video logId certificate draw])
      constructor
      · intro htype
        cases htype
      · intro _
        exact ⟨certificate, draw, sourceTracks (w.manager.removePullStream uid name) push,
          List.mem_append_right _ (List.mem_singleton_self _), htracks, rfl⟩

/-- Every step of a stream keeps its history: the tracks it knows come from answers among the
events. -/
theorem history_of_streamStep {es : List MediaWorker.Event} {e : MediaWorker.Event} {p : Nat}
    {stream s : RtcStream PeerConnection} (h : History ntop6 es stream)
    (hstep : StreamStep ssl e p stream s) : History ntop6 (es ++ [e]) s := by
  have hes : es ⊆ es ++ [e] := List.subset_append_left _ _
  cases hstep with
  | same => exact h.same hes rfl rfl rfl
  | event name ev _ => exact h.same hes rfl rfl rfl
  | answer he hsdp =>
      rename_i sdp ret pc'
      have hlocal := setRemoteSdp_localDesc hsdp
      constructor
      · intro htype d hd
        rcases setRemoteSdp_remoteDesc hsdp with hsame | ⟨r, hr, hdesc⟩ | ⟨r, hdesc⟩
        · rw [hsame] at hd
          exact (h.remote htype d hd).mono hes
        · right
          rw [hdesc] at hd
          cases hd
          have htype' : stream.streamType = .push := htype
          rw [htype'] at he
          refine ⟨_, _, r, List.mem_append_right _ (List.mem_singleton.mpr he.symm), hr, ?_⟩
          exact fun type => rfl
        · left
          rw [hdesc] at hd
          cases hd
          exact tracksIn_partialDescription r
      · intro htype
        obtain ⟨certificate, draw, tracks, hmem, htracks, hoffer⟩ := h.offer htype
        exact ⟨certificate, draw, tracks, hes hmem, htracks.mono hes, hlocal.trans hoffer⟩

/-- Every stream of a worker has its history. -/
theorem history_of_run {es : List MediaWorker.Event}
    (hrun : runPartial (MediaWorker.step crypto ssl ntop6) {} es = some w) :
    ∀ p s, w.manager.heap p = some s → History ntop6 es s :=
  history_of_streams (P := History ntop6)
    (fun hentries h hcreated => history_of_created hentries h hcreated)
    (fun h hs => history_of_streamStep h hs) hrun

/-! ### What is announced -/

/-- What a new stream draws and gathers can be printed. -/
structure PrintedDraw (ntop6 : Vector UInt8 16 → Bytes) (certificate : Option LocalCertificate)
    (draw : OfferDraw) : Prop where
  iceUfrag : IsRandomString draw.iceParam.iceUfrag
  icePwd : IsRandomString draw.iceParam.icePwd
  allocated : ∀ mid, ∀ c ∈ draw.allocated mid, IsHostCandidate ntop6 c
  fingerprint : ∀ local' ∈ certificate, ∀ fp ∈ local'.fingerprint, PrintedFingerprint fp

/-- What the events bring can be printed: the draws of pull streams, and the tracks of accepted
answers of push streams. -/
def Prepared (ntop6 : Vector UInt8 16 → Bytes) : MediaWorker.Event → Prop
  | .pull _ _ _ _ _ certificate draw => PrintedDraw ntop6 certificate draw
  | .answer _ _ sdp streamType => streamType = "push" →
      ∀ r, RemoteSdp.parseLines {} (sdpFields sdp) = .ok r →
        ∀ type, ∀ track ∈ tracksIn r.description type, HarmlessTrack track
  | _ => True

/-- An offer announces these tracks in its sections. -/
structure Announces (d : SessionDescription) (types : List MediaType)
    (tracks : MediaType → List StreamParams) : Prop where
  sections : d.contents.map MediaContentDescription.type = types
  sendStreams : ∀ content ∈ d.contents, content.sendStreams = tracks content.type

/-- The text of an offer is read as what the offer says. -/
def ReadBack (ntop6 : Vector UInt8 16 → Bytes) (d : SessionDescription) : Prop :=
  ∃ r, RemoteSdp.parseLines {} (sdpFields (d.toString ntop6)) = .ok r ∧ OfferRead d r.description

/-- The sections of a pull stream. -/
def pullTypes {Pc : Type} (s : RtcStream Pc) : List MediaType :=
  (if s.audio then [.audio] else []) ++ if s.video then [.video] else []

/-- Tracks of accepted answers are accepted ones, and harmless where the events are prepared. -/
theorem AnsweredTracks.accepted {es : List MediaWorker.Event} {name : String}
    {tracks : MediaType → List StreamParams} (h : AnsweredTracks es name tracks)
    (hes : ∀ e ∈ es, Prepared ntop6 e) (type : MediaType) :
    AcceptedTracks type (tracks type) ∧ ∀ track ∈ tracks type, HarmlessTrack track := by
  rcases h with hnone | ⟨uid, sdp, r, hmem, hr, htracks⟩
  · rw [hnone]
    exact ⟨acceptedTracks_nil type, fun track htrack => absurd htrack List.not_mem_nil⟩
  · have hprepared : Prepared ntop6 (.answer uid name sdp "push") := hes _ hmem
    rw [htracks]
    exact ⟨acceptedTracks_description hr type, hprepared rfl r hr type⟩

section

variable {draw : OfferDraw} {certificate : Option LocalCertificate}
  {tracks : MediaType → List StreamParams} {s : RtcStream PeerConnection} {d : SessionDescription}

/-- The offer that a pull stream makes of the tracks it has copied. -/
theorem offerDescription_of_offeredStream (hd : (offeredStream ntop6 draw certificate { s with
      pc := { audioSource := tracks .audio, videoSource := tracks .video } }).pc.localDesc = some d) :
    ∃ names, d = PeerConnection.onCandidatesAllocated draw.allocated names
      ((initPeerConnection { audioSource := tracks .audio, videoSource := tracks .video }
        certificate).offerDescription (offerAnswerOptions s.offerOptions) draw.iceParam) := by
  let pc := initPeerConnection { audioSource := tracks .audio, videoSource := tracks .video }
    certificate
  change (pc.createOffer ntop6 draw.allocated (offerAnswerOptions s.offerOptions)
    draw.iceParam).2.localDesc = some d at hd
  unfold PeerConnection.createOffer at hd
  split at hd
  · cases hd
  · exact ⟨_, (Option.some.inj hd).symm⟩

/-- A pull stream offers to send what it is asked for, and to receive nothing. -/
theorem offerOptions_pull (htype : s.streamType = .pull) :
    offerAnswerOptions (RtcStream.offerOptions s) =
      { sendAudio := s.audio, sendVideo := s.video, recvAudio := false, recvVideo := false } := by
  unfold RtcStream.offerOptions
  rw [htype]
  rfl

/-- The offer of a pull stream has the tracks in the sections that it was asked for. -/
theorem announces_offeredStream (htype : s.streamType = .pull)
    (hd : (offeredStream ntop6 draw certificate { s with
      pc := { audioSource := tracks .audio, videoSource := tracks .video } }).pc.localDesc = some d) :
    Announces d (pullTypes s) tracks := by
  obtain ⟨names, hprinted⟩ := offerDescription_of_offeredStream hd
  have hoptions := offerOptions_pull htype
  obtain ⟨htypes, hoffered⟩ := contents_offer (Q := fun _ => True) (fun _ _ _ => trivial) _ hprinted
  have hsections : d.contents.map MediaContentDescription.type = pullTypes s := by
    rw [htypes, hoptions]
    rfl
  refine ⟨hsections, fun content hcontent => ?_⟩
  have hmem : content.type ∈ pullTypes s := by
    rw [← hsections]
    exact List.mem_map_of_mem hcontent
  rw [(hoffered content hcontent).sendStreams, hoptions]
  -- a section that is there is one that is sent
  unfold pullTypes at hmem
  cases htype : content.type with
  | audio =>
      rw [htype] at hmem
      have haudio : s.audio = true := by
        by_contra hno
        simp [hno] at hmem
      exact if_pos haudio
  | video =>
      rw [htype] at hmem
      have hvideo : s.video = true := by
        by_contra hno
        simp [hno] at hmem
      exact if_pos hvideo

/-- Its text is read again, if what it is made of can be printed. -/
theorem readBack_offeredStream (hdraw : PrintedDraw ntop6 certificate draw)
    (htracks : ∀ type, AcceptedTracks type (tracks type) ∧
      ∀ track ∈ tracks type, HarmlessTrack track)
    (hd : (offeredStream ntop6 draw certificate { s with
      pc := { audioSource := tracks .audio, videoSource := tracks .video } }).pc.localDesc = some d) :
    ReadBack ntop6 d := by
  obtain ⟨names, hprinted⟩ := offerDescription_of_offeredStream hd
  refine offerDescription_read hdraw.iceUfrag hdraw.icePwd (fun fp hfp => ?_) hdraw.allocated
    (htracks .audio).1 (htracks .video).1
    (List.forall_mem_append.mpr ⟨(htracks .audio).2, (htracks .video).2⟩) _ hprinted
  obtain ⟨local', hlocal, hfp⟩ := Option.map_eq_some_iff.mp hfp
  exact hdraw.fingerprint local' hlocal fp hfp

end

/-- The offer of a pull stream announces the tracks of an answer that the worker got for a push
stream of its name, or none. Its text is read again as this offer, if the events of the run bring
only what can be printed. -/
theorem announced_of_run {es : List MediaWorker.Event}
    (hrun : runPartial (MediaWorker.step crypto ssl ntop6) {} es = some w) {p : Nat}
    {s : RtcStream PeerConnection} (hheap : w.manager.heap p = some s) (htype : s.streamType = .pull)
    {d : SessionDescription} (hd : s.pc.localDesc = some d) :
    ∃ tracks, AnsweredTracks es s.streamName tracks ∧ Announces d (pullTypes s) tracks ∧
      ((∀ e ∈ es, Prepared ntop6 e) → ReadBack ntop6 d) := by
  obtain ⟨certificate, draw, tracks, hmem, htracks, hoffer⟩ :=
    (history_of_run hrun p s hheap).offer htype
  have hd' := hoffer.symm.trans hd
  refine ⟨tracks, htracks, announces_offeredStream htype hd', fun hes => ?_⟩
  have hdraw : PrintedDraw ntop6 certificate draw := hes _ hmem
  exact readBack_offeredStream hdraw (htracks.accepted hes) hd'

/-- A client sends a track, and another one asks for it. -/
def voiceEvents : List MediaWorker.Event :=
  let certificate := some ⟨0, some ⟨ascii "sha-256", [1]⟩⟩
  let draw := ⟨drawn.iceParam, fun _ => [loopbackCandidate]⟩
  [.push 1 "s" true true 0 certificate draw, .answer 1 "s" voiceText "push",
    .pull 2 "s" true true 0 certificate draw]

/-- This run ends with a pull stream that has made its offer. -/
theorem passRun_voiceEvents : ∃ w s, passRun voiceEvents = some w ∧ w.manager.heap 1 = some s ∧
    s.streamType = .pull ∧ s.pc.localDesc.isSome = true := by
  have hrun : ((passRun voiceEvents).bind fun w => w.manager.heap 1).map
      (fun s => (s.streamType, s.pc.localDesc.isSome)) = some (.pull, true) := by
    decide +kernel
  obtain ⟨s, hs, heq⟩ := Option.map_eq_some_iff.mp hrun
  obtain ⟨w, hw, hheap⟩ := Option.bind_eq_some_iff.mp hs
  simp only [Prod.mk.injEq] at heq
  exact ⟨w, s, hw, hheap, heq⟩

/-- Its events are prepared: the draws can be printed, and the answer has one track that is
harmless. -/
theorem prepared_voiceEvents : ∀ e ∈ voiceEvents, Prepared (fun _ => []) e := by
  unfold voiceEvents
  simp only [List.forall_mem_cons]
  refine ⟨trivial, ?_, ⟨drawn_spec.iceUfrag, drawn_spec.icePwd, ?_, ?_⟩,
    fun e he => absurd he List.not_mem_nil⟩
  · intro _ r hr type track htrack
    obtain ⟨s, hs, haudio, hvideo⟩ := voiceText_tracks
    rw [hs] at hr
    cases hr
    rw [tracksIn_description] at htrack
    split_ifs at htrack
    · cases type with
      | audio =>
          have htrack' : track ∈ r.audio.tracks := htrack
          rw [haudio] at htrack'
          rw [List.mem_singleton.mp htrack']
          exact harmless_voiceTrack
      | video =>
          have htrack' : track ∈ r.video.tracks := htrack
          rw [hvideo] at htrack'
          exact absurd htrack' List.not_mem_nil
    · exact absurd htrack List.not_mem_nil
  · intro mid c hc
    rw [List.mem_singleton.mp hc]
    exact ⟨_, _, _, _, rfl⟩
  · intro local' hlocal fp hfp
    cases hlocal
    cases hfp
    exact ⟨by decide +kernel, by simp, by decide +kernel⟩

/-- The second client hears of the track. -/
theorem announced_of_voiceEvents : ∃ (w : MediaWorker) (s : RtcStream PeerConnection)
    (d : SessionDescription) (tracks : MediaType → List StreamParams),
    w.manager.heap 1 = some s ∧ s.pc.localDesc = some d ∧
      AnsweredTracks voiceEvents s.streamName tracks ∧ Announces d (pullTypes s) tracks ∧
        ReadBack (fun _ => []) d := by
  obtain ⟨w, s, hrun, hheap, htype, hsome⟩ := passRun_voiceEvents
  obtain ⟨d, hd⟩ := Option.isSome_iff_exists.mp hsome
  obtain ⟨tracks, htracks, hannounces, hread⟩ := announced_of_run hrun hheap htype hd
  exact ⟨w, s, d, tracks, hheap, hd, htracks, hannounces, hread prepared_voiceEvents⟩

end Xrtc.Proofs.Stream
