import Xrtc.Proofs.Ice.StunWalk
import Xrtc.Proofs.Sdk.OfferParsed

/-!
# `Xrtc.Proofs.Sdk.OfferRecovered`: what the SDK recovers of an offer

`create_offer` makes at most two sections, with a transport for each of them, and one group
(`offerDescription_eq`). Without a fingerprint of the certificate there are no transports, and
nothing is said about credentials. The gathered candidates are attached to the sections by
`onCandidatesAllocated`, one transport after the other.

`offer_recovered` is the result for all of these descriptions, and `createOffer_recovered` for
the text that `create_offer` returns.
-/

set_option autoImplicit false

namespace Xrtc.Proofs.Sdk

open Xrtc.Lib
open Xrtc.Ice (ascii IceParameters)
open Xrtc.Pc (MediaType ContentGroup SSLFingerprint)
open Xrtc.Sdk
open Xrtc.Proofs.Ice (fixedDigest)

variable {pton6 : Bytes → Option (Vector UInt8 16)} {ntop6 : Vector UInt8 16 → Bytes}

/-! ### Offers -/

/-- The sections that an offer has. -/
def offerTypes (options : Pc.RTCOfferAnswerOptions) : List MediaType :=
  (if options.recvAudio || options.sendAudio then [.audio] else []) ++
    if options.recvVideo || options.sendVideo then [.video] else []

/-- A section of an offer. -/
def offerContent (pc : Pc.PeerConnection) (options : Pc.RTCOfferAnswerOptions) :
    MediaType → Pc.MediaContentDescription
  | .audio =>
      { Pc.audioContentDescription with
          direction := Pc.getDirection options.sendAudio options.recvAudio
          rtcpMux := options.useRtcpMux
          sendStreams := if options.sendAudio then pc.audioSource else [] }
  | .video =>
      { Pc.videoContentDescription with
          direction := Pc.getDirection options.sendVideo options.recvVideo
          rtcpMux := options.useRtcpMux
          sendStreams := if options.sendVideo then pc.videoSource else [] }

/-- The section of a kind has that kind. -/
theorem offerContent_type (pc : Pc.PeerConnection) (options : Pc.RTCOfferAnswerOptions)
    (type : MediaType) : (offerContent pc options type).type = type := by
  cases type <;> rfl

/-- The transport of a section of an offer, if it has one. -/
def offerTransport (certificate : Option (Option SSLFingerprint)) (iceParam : IceParameters)
    (type : MediaType) : Option Pc.TransportDescription :=
  let td : Pc.TransportDescription :=
    { mid := type.mid, iceUfrag := iceParam.iceUfrag, icePwd := iceParam.icePwd,
      connectionRole := .actpass }
  match certificate with
  | none => some td
  | some none => none
  | some fingerprint => some { td with identityFingerprint := fingerprint }

/-- What an offer says. -/
theorem offerDescription_eq (pc : Pc.PeerConnection) (options : Pc.RTCOfferAnswerOptions)
    (iceParam : IceParameters) :
    pc.offerDescription options iceParam =
      { sdpType := .offer
        contents := (offerTypes options).map (offerContent pc options)
        contentGroups :=
          if options.useRtpMux = true ∧ offerTypes options ≠ [] then
            [⟨ascii "BUNDLE", (offerTypes options).map MediaType.mid⟩]
          else []
        transportInfos :=
          (offerTypes options).filterMap (offerTransport pc.certificate iceParam) } := by
  unfold Pc.PeerConnection.offerDescription offerTypes Pc.PeerConnection.addOfferContent
    Pc.SessionDescription.addOfferTransportInfo offerTransport
  rcases pc.certificate with _ | _ | fp <;>
    cases options.recvAudio || options.sendAudio <;>
    cases options.recvVideo || options.sendVideo <;> cases options.useRtpMux <;>
    simp [Pc.SessionDescription.addContent, Pc.SessionDescription.addTransportInfo,
      Pc.SessionDescription.addGroup, ContentGroup.addContentName, Pc.MediaContentDescription.mid,
      offerContent, Pc.audioContentDescription, Pc.videoContentDescription, MediaType.mid,
      mid_ne.symm]

/-- The transport of a section has its name. -/
theorem offerTransport_mid {certificate : Option (Option SSLFingerprint)} {iceParam : IceParameters}
    {type : MediaType} {td : Pc.TransportDescription}
    (h : offerTransport certificate iceParam type = some td) : td.mid = type.mid := by
  unfold offerTransport at h
  rcases certificate with _ | _ | fp <;> cases h <;> rfl

/-- A section of an offer has the credentials of the connection and offers both roles. Its
fingerprint, if it has one, is that of the certificate. -/
theorem offerTransport_spec {certificate : Option (Option SSLFingerprint)}
    {iceParam : IceParameters} {Q : SSLFingerprint → Prop}
    (hfingerprint : ∀ fp, certificate = some (some fp) → Q fp) {type : MediaType}
    {td : Pc.TransportDescription} (h : offerTransport certificate iceParam type = some td) :
    td.iceUfrag = iceParam.iceUfrag ∧ td.icePwd = iceParam.icePwd ∧
      td.connectionRole = .actpass ∧ ∀ fp ∈ td.identityFingerprint, Q fp := by
  unfold offerTransport at h
  rcases certificate with _ | _ | fp <;> cases h
  · exact ⟨rfl, rfl, rfl, fun fp hfp => nomatch hfp⟩
  · refine ⟨rfl, rfl, rfl, ?_⟩
    intro fp' hfp
    cases hfp
    exact hfingerprint fp rfl

/-- The transport that is found for a section is its own: the names of the sections differ, so the
first one of the name is the only one. -/
theorem getTransportInfo_offerTypes {certificate : Option (Option SSLFingerprint)}
    {iceParam : IceParameters} {type : MediaType} {types : List MediaType} (hmem : type ∈ types) :
    (types.filterMap (offerTransport certificate iceParam)).find? (fun td => td.mid = type.mid) =
      offerTransport certificate iceParam type := by
  -- on the types: a transport in front of the one that is looked for has another mid
  induction types with
  | nil => exact absurd hmem List.not_mem_nil
  | cons other types ih =>
      by_cases heq : other = type
      · subst heq
        cases hother : offerTransport certificate iceParam other with
        | none =>
            -- then no section has a transport
            have hnone : ∀ type, offerTransport certificate iceParam type = none := by
              intro type
              unfold offerTransport at hother ⊢
              rcases certificate with _ | _ | fp <;> cases hother
              rfl
            rw [List.filterMap_eq_nil_iff.mpr fun type _ => hnone type]
            rfl
        | some td =>
            rw [List.filterMap_cons_some hother]
            exact List.find?_cons_of_pos (by simpa using offerTransport_mid hother)
      · have htypes := ih ((List.mem_cons.mp hmem).resolve_left (Ne.symm heq))
        cases hother : offerTransport certificate iceParam other with
        | none => rw [List.filterMap_cons_none hother, htypes]
        | some td =>
            have hne : td.mid ≠ type.mid := by
              rw [offerTransport_mid hother]
              exact fun hmid => heq (mid_injective hmid)
            rw [List.filterMap_cons_some hother, List.find?_cons_of_neg (by simpa using hne), htypes]

section
variable {pc : Pc.PeerConnection} {options : Pc.RTCOfferAnswerOptions} {iceParam : IceParameters}
  (hstreams : (options.sendAudio = true → pc.audioSource = []) ∧
    (options.sendVideo = true → pc.videoSource = []))
  (hufrag : IsRandomString iceParam.iceUfrag) (hpwd : IsRandomString iceParam.icePwd)
  (hfingerprint : ∀ fp, pc.certificate = some (some fp) →
    fp.algorithm ∈ signatureDigestAlgorithms)
include hstreams hufrag hpwd hfingerprint

/-- An offer without streams, before candidates are attached to it. Its sections are the types
that were asked for, each with its transport. -/
theorem printedOffer_offerDescription (ntop6 : Vector UInt8 16 → Bytes) :
    PrintedOffer ntop6 (pc.offerDescription options iceParam) := by
  have htypes : ((offerTypes options).map (offerContent pc options)).map
      Pc.MediaContentDescription.type = offerTypes options := by
    rw [List.map_map]
    exact List.map_id'' (offerContent_type pc options) _
  have hmids : ((offerTypes options).map (offerContent pc options)).map
      Pc.MediaContentDescription.mid = (offerTypes options).map MediaType.mid := by
    rw [List.map_map]
    refine List.map_congr_left fun type _ => ?_
    show (offerContent pc options type).type.mid = type.mid
    rw [offerContent_type]
  have hstreams' : ∀ type, (offerContent pc options type).sendStreams = [] := by
    intro type
    cases type with
    | audio => exact ite_eq_right_iff.mpr hstreams.1
    | video => exact ite_eq_right_iff.mpr hstreams.2
  rw [offerDescription_eq]
  constructor
  · -- a section for each type
    rw [htypes]
    unfold offerTypes
    split_ifs <;> decide
  · -- what the sections and their transports are printed with
    intro content hcontent
    obtain ⟨type, htype, rfl⟩ := List.mem_map.mp hcontent
    refine ⟨by cases type <;> rfl, hstreams' type, ?_, ?_⟩
    · intro c hc
      cases type <;> exact absurd hc List.not_mem_nil
    · intro td htd
      have hmid : (offerContent pc options type).mid = type.mid :=
        congrArg MediaType.mid (offerContent_type pc options type)
      have hfind := @getTransportInfo_offerTypes pc.certificate iceParam _ _ htype
      rw [hmid] at htd
      obtain ⟨hiceUfrag, hicePwd, hrole, hprinted⟩ :=
        offerTransport_spec hfingerprint (hfind.symm.trans htd)
      exact ⟨hiceUfrag ▸ hufrag, hicePwd ▸ hpwd, hrole, hprinted⟩
  · -- the group names all sections
    dsimp only
    rw [hmids]
    split_ifs with hgroup
    · exact .inr ⟨by simpa using hgroup.2, rfl⟩
    · exact .inl rfl
  · -- a transport is that of its section
    intro td htd
    obtain ⟨type, htype, hoffer⟩ := List.mem_filterMap.mp htd
    have hmid := offerTransport_mid hoffer
    refine ⟨?_, offerContent pc options type, List.mem_map_of_mem htype, ?_⟩
    · rw [hmid]
      exact (getTransportInfo_offerTypes htype).trans hoffer
    · rw [hmid]
      exact congrArg MediaType.mid (offerContent_type pc options type)

end

/-! ### Candidates -/

/-- Candidates change no kind. -/
theorem addCandidates_type (mid : Bytes) (candidates : List Pc.Candidate)
    (contents : List Pc.MediaContentDescription) :
    (Pc.addCandidates mid candidates contents).map Pc.MediaContentDescription.type =
      contents.map Pc.MediaContentDescription.type := by
  induction contents with
  | nil => rfl
  | cons content contents ih =>
      rw [Pc.addCandidates]
      split_ifs
      · rfl
      · rw [List.map_cons, List.map_cons, ih]

/-- Sections stay printable with host candidates in them. -/
theorem printedContent_addCandidates {d : Pc.SessionDescription} {mid : Bytes}
    {candidates : List Pc.Candidate} (hcandidates : ∀ c ∈ candidates, IsHostCandidate ntop6 c)
    {contents : List Pc.MediaContentDescription}
    (h : ∀ content ∈ contents, PrintedContent ntop6 d content) :
    ∀ content ∈ Pc.addCandidates mid candidates contents, PrintedContent ntop6 d content := by
  induction contents with
  | nil => exact h
  | cons content contents ih =>
      obtain ⟨hcontent, hcontents⟩ := List.forall_mem_cons.mp h
      rw [Pc.addCandidates]
      split_ifs
      · refine List.forall_mem_cons.mpr ⟨?_, hcontents⟩
        exact ⟨hcontent.codecs, hcontent.sendStreams, hcandidates, hcontent.transport⟩
      · exact List.forall_mem_cons.mpr ⟨hcontent, ih hcontents⟩

/-- Gathered candidates are attached, transport by transport. They go to the section of that name,
and change nothing else of it. -/
theorem printedOffer_allocated {allocated : Bytes → List Pc.Candidate}
    (hallocated : ∀ mid, ∀ c ∈ allocated mid, IsHostCandidate ntop6 c) (names : List Bytes) :
    ∀ {d : Pc.SessionDescription}, PrintedOffer ntop6 d →
      PrintedOffer ntop6 (Pc.PeerConnection.onCandidatesAllocated allocated names d) := by
  -- on the transports that candidates were gathered for
  induction names with
  | nil => exact fun h => h
  | cons mid names ih =>
      intro d h
      have hcontents : ∀ content ∈ Pc.addCandidates mid (allocated mid) d.contents,
          PrintedContent ntop6 d content :=
        printedContent_addCandidates (hallocated mid) h.contents
      have htypes := addCandidates_type mid (allocated mid) d.contents
      have hmids : (Pc.addCandidates mid (allocated mid) d.contents).map
          Pc.MediaContentDescription.mid = d.contents.map Pc.MediaContentDescription.mid := by
        have hmap := congrArg (List.map MediaType.mid) htypes
        rwa [List.map_map, List.map_map] at hmap
      suffices h' : PrintedOffer ntop6
          { d with contents := Pc.addCandidates mid (allocated mid) d.contents } from ih h'
      constructor
      · exact htypes ▸ h.types
      · intro content hcontent
        obtain ⟨hcodecs, hsend, hcandidates, htransport⟩ := hcontents content hcontent
        exact ⟨hcodecs, hsend, hcandidates, htransport⟩
      · refine h.groups.imp_right ?_
        rintro ⟨hne, hgroup⟩
        refine ⟨?_, hgroup.trans (by rw [hmids])⟩
        intro hnil
        have hempty : d.contents.map Pc.MediaContentDescription.type = [] := by
          rw [← htypes]
          exact congrArg (List.map _) hnil
        exact hne (List.map_eq_nil_iff.mp hempty)
      · intro td htd
        obtain ⟨hfound, content, hcontent, hmid⟩ := h.transports td htd
        have hmem : td.mid ∈ (Pc.addCandidates mid (allocated mid) d.contents).map
            Pc.MediaContentDescription.mid := by
          rw [hmids]
          exact List.mem_map.mpr ⟨content, hcontent, hmid⟩
        exact ⟨hfound, List.mem_map.mp hmem⟩

section
variable {pc : Pc.PeerConnection} {options : Pc.RTCOfferAnswerOptions} {iceParam : IceParameters}
  {allocated : Bytes → List Pc.Candidate}
  (hstreams : (options.sendAudio = true → pc.audioSource = []) ∧
    (options.sendVideo = true → pc.videoSource = []))
  (hufrag : IsRandomString iceParam.iceUfrag) (hpwd : IsRandomString iceParam.icePwd)
  (hfingerprint : ∀ fp, pc.certificate = some (some fp) →
    fp.algorithm ∈ signatureDigestAlgorithms)
  (hallocated : ∀ mid, ∀ c ∈ allocated mid, IsHostCandidate ntop6 c)
include hstreams hufrag hpwd hfingerprint hallocated

/-- The text that `create_offer` returns, and the description it keeps. -/
theorem createOffer_recovered (pton6 : Bytes → Option (Vector UInt8 16)) (remote : Signaling)
    {sdp : Bytes} {pc' : Pc.PeerConnection}
    (hsdp : pc.createOffer ntop6 allocated options iceParam = (sdp, pc')) (hne : sdp ≠ []) :
    ∃ d, pc'.localDesc = some d ∧
      ∃ remote', remote.setRemoteSDP pton6 sdp = .returns 0 remote' ∧
        ∃ r, remote'.remoteDesc = some r ∧ OfferRecovered d r := by
  have hoffer := printedOffer_offerDescription hstreams hufrag hpwd hfingerprint ntop6
  unfold Pc.PeerConnection.createOffer at hsdp
  split_ifs at hsdp
  · cases hsdp
    exact absurd rfl hne
  · cases hsdp
    exact ⟨_, rfl, printedOffer_recovered (printedOffer_allocated hallocated _ hoffer) remote⟩

/-- Of any offer without streams, with any host candidates attached to its sections, the SDK
recovers the sections, the group, the credentials and the candidates. The credentials and the
addresses are arbitrary, so this is about the format and not about one offer. -/
theorem offer_recovered (pton6 : Bytes → Option (Vector UInt8 16)) (names : List Bytes)
    (remote : Signaling) {d : Pc.SessionDescription}
    (hd : d = Pc.PeerConnection.onCandidatesAllocated allocated names
      (pc.offerDescription options iceParam)) :
    ∃ remote', remote.setRemoteSDP pton6 (d.toString ntop6) = .returns 0 remote' ∧
      ∃ r, remote'.remoteDesc = some r ∧ OfferRecovered d r := by
  subst hd
  have hoffer := printedOffer_offerDescription hstreams hufrag hpwd hfingerprint ntop6
  exact printedOffer_recovered (printedOffer_allocated hallocated names hoffer) remote

end

/-- A candidate of a socket on 127.0.0.1. -/
def loopbackCandidate : Pc.Candidate :=
  Pc.createIceCandidate (fixedDigest (Vector.replicate 20 0) 0x48777a3d) (fun _ => []) .rtp
    0x7f000001 5000

/-- A connection with a certificate. -/
def receiver : Pc.PeerConnection where
  certificate := some (some ⟨ascii "sha-1", List.replicate 20 0xab⟩)

/-- An offer to receive both media, with a candidate in each of the sections. -/
def loopbackOffer : Pc.SessionDescription :=
  Pc.PeerConnection.onCandidatesAllocated (fun _ => [loopbackCandidate])
    [ascii "audio", ascii "video"]
    (receiver.offerDescription { sendAudio := false, sendVideo := false } drawn.iceParam)

/-- An offer with one loopback candidate. -/
theorem loopbackOffer_recovered :
    ∃ remote', ({} : Signaling).setRemoteSDP (fun _ => none) (loopbackOffer.toString fun _ => []) =
        .returns 0 remote' ∧
      ∃ r, remote'.remoteDesc = some r ∧ OfferRecovered loopbackOffer r := by
  refine offer_recovered (by simp) drawn_spec.iceUfrag drawn_spec.icePwd ?_ ?_ (fun _ => none)
    [ascii "audio", ascii "video"] {} rfl
  · intro fp hfp
    cases hfp
    simp [signatureDigestAlgorithms]
  · intro mid c hc
    rw [List.mem_singleton.mp hc]
    exact ⟨_, _, _, _, rfl⟩

end Xrtc.Proofs.Sdk
