import Xrtc.Proofs.Sdk.OfferRecovered
import Xrtc.Proofs.Stream.TrackLines
import Xrtc.Proofs.Stream.TransportLines

/-!
# `Xrtc.Proofs.Stream.OfferRead`: an offer with tracks, read again

`create_offer` writes session descriptions and `set_remote_sdp` reads them. `createOffer_read`
says that the reader gets back what the writer has put in: the sections, the credentials, the
fingerprint, and the tracks with their ssrcs and groups. The tracks are those of an answer that
was accepted before (`AcceptedTracks`), so a second server that pulled a stream from this one
would know the same tracks of it. The group of the sections is not recovered, as the reader looks
for it under another name.

A section is read part by part (`parseLines_offered`). The lines of its transport and of its
tracks have an effect, and the others are inert.
-/

set_option autoImplicit false

namespace Xrtc.Proofs.Stream

open Xrtc.Base
open Xrtc.Lib
open Xrtc.Ice (ascii IceParameters)
open Xrtc.Pc
open Xrtc.Proofs.Base
open Xrtc.Proofs.Pc
open Xrtc.Proofs.Sdk (IsRandomString IsHostCandidate candidateLine_attribute parseLines_inert
  parseLines_effects codecsOf connectionLines connectionLines_inert attributeLines
  attributeLines_inert afterSection afterSection_mediaType sectionAt_afterSection
  setSection_afterSection applyLine_mediaLine offerLine offerTypes offerContent offerContent_type
  offerTransport offerDescription_eq offerTransport_mid offerTransport_spec
  getTransportInfo_offerTypes addCandidates_type loopbackCandidate drawn drawn_spec)

variable {ntop6 : Vector UInt8 16 → Bytes}

/-! ### Sections -/

/-- The reader passes over a candidate line, and a host address puts no line end into it. -/
theorem candidateLine_inert {c : Candidate} (h : IsHostCandidate ntop6 c) :
    Inert (candidateLine ntop6 c) ∧ lf ∉ candidateLine ntop6 c := by
  obtain ⟨value, hline, hequals, hlf⟩ := candidateLine_attribute h
  have hnames : ∀ key ∈ [ascii "ice-ufrag", ascii "ice-pwd", ascii "fingerprint", ascii "ssrc:",
      ascii "ssrc-group:"], ¬ key <+: ascii "candidate:" ∧ ¬ ascii "candidate:" <+: key := by
    decide +kernel
  have hkeys : sectionKeys = [ascii "ice-ufrag", ascii "ice-pwd", ascii "fingerprint",
      ascii "ssrc:", ascii "ssrc-group:"].map fun key => ascii "a=" ++ key := by
    simp [sectionKeys, ascii]
  have hmedia : ascii "m=group:BUNDLE" = ascii "m=" ++ ascii "group:BUNDLE" := by simp [ascii]
  rw [hline]
  refine ⟨⟨?_, ?_⟩, ?_⟩
  · -- neither a group nor a section
    have hsection := @not_infix_attribute [] (ascii "candidate:" ++ value) hequals
    rw [List.append_nil] at hsection
    rw [if_neg (hmedia ▸ not_infix_attribute hequals)]
    exact hsection
  · intro key hkey
    rw [hkeys] at hkey
    obtain ⟨name, hname, rfl⟩ := List.mem_map.mp hkey
    rw [infix_attribute hequals]
    exact not_prefix_append (hnames name hname).1 (hnames name hname).2
  · simp only [List.mem_append, not_or]
    exact ⟨by simp [ascii, lf], by simp [ascii, lf], hlf⟩

/-- The line that opens a section makes it the current one, with an empty transport. -/
theorem offerLine_effect (type : MediaType) (mediaType : Bytes) :
    lineEffect mediaType (offerLine type)
      = .ok { media := .enter type.mid, current := some (type, {}) } := by
  have hmedia : mediaEffect (offerLine type) = .ok (.enter type.mid) := by
    cases type <;> decide +kernel
  have hsection : sectionEffect type (offerLine type) = .ok {} := by
    cases type <;> decide +kernel
  rw [lineEffect, hmedia]
  dsimp only [bind, Except.bind, afterMedia]
  rw [sectionType_mid]
  dsimp only
  rw [hsection]
  rfl

/-- Tracks that can be printed in a section. -/
structure Printable (type : MediaType) (tracks : List StreamParams) : Prop where
  separate : Separate tracks
  read : ∀ track ∈ tracks, ReadTrack track ∧ (type = .audio → track.ssrcGroups = [])
  harmless : ∀ track ∈ tracks, HarmlessTrack track

/-- A section without tracks can be printed. -/
theorem printable_nil (type : MediaType) : Printable type [] := by
  refine ⟨⟨List.nodup_nil, ?_, ?_, ?_, ?_⟩, ?_, ?_⟩
  all_goals exact fun track htrack => absurd htrack List.not_mem_nil

/-- A section of an offer. -/
structure OfferedContent (ntop6 : Vector UInt8 16 → Bytes) (d : SessionDescription)
    (content : MediaContentDescription) : Prop where
  codecs : content.codecs = codecsOf content.type
  candidates : ∀ c ∈ content.candidates, IsHostCandidate ntop6 c
  transport : ∀ td ∈ d.getTransportInfo content.mid, ReadTransport td
  sendStreams : Printable content.type content.sendStreams

/-- The lines of the transport, if the section has one. -/
def offeredTransport (td : Option TransportDescription) : List Bytes :=
  match td with
  | none => []
  | some td => transportLines td

/-- What is read of them. -/
def readOfferedTransport (type : MediaType) (td : Option TransportDescription) :
    TransportDescription :=
  match td with
  | none => { mid := type.mid }
  | some td => readTransport td

/-- The lines of the transport, read in the section they were printed for, give the transport
back. -/
theorem parseLines_offeredTransport {type : MediaType} {td : Option TransportDescription}
    (htd : ∀ td' ∈ td, td'.mid = type.mid ∧ ReadTransport td') (s : RemoteSdp)
    (rest : List Bytes) :
    (afterSection s type { td := { mid := type.mid } }).parseLines (offeredTransport td ++ rest)
      = (afterSection s type { td := readOfferedTransport type td }).parseLines rest := by
  cases td with
  | none => rfl
  | some td =>
      obtain ⟨hmid, hread⟩ := htd td rfl
      show (afterSection s type _).parseLines (transportLines td ++ rest) = _
      rw [transportLines_split, List.append_assoc,
        parseLines_effects _ _ _ (lineEffect_transport type hread) (afterSection_mediaType _ _ _),
        sectionAt_afterSection, if_pos rfl, setSection_afterSection, foldl_transportEffects hmid,
        parseLines_inert fun line hline => (setupLines_inert hread line hline).1]
      rfl

/-- The local objects of a section of an offer. -/
def readOffered (d : SessionDescription) (content : MediaContentDescription) : RemoteSection :=
  (trackLines content.sendStreams).foldl (fun sec x => applySection sec x.2)
    { td := readOfferedTransport content.type (d.getTransportInfo content.mid) }

/-- The lines of a section, grouped as the reader goes through them: the head, lines it passes
over, the transport, the attributes and the tracks. -/
theorem offeredLines_eq {d : SessionDescription} {content : MediaContentDescription}
    (h : OfferedContent ntop6 d content) :
    d.sectionLines ntop6 content =
      offerLine content.type :: (connectionLines ++ (content.candidates.map (candidateLine ntop6) ++
        (offeredTransport (d.getTransportInfo content.mid) ++
          (attributeLines content.type content.direction content.rtcpMux ++
            (trackLines content.sendStreams).map Prod.fst)))) := by
  rw [trackLines_fst fun track htrack => (h.sendStreams.read track htrack).1]
  unfold SessionDescription.sectionLines attributeLines connectionLines offerLine offeredTransport
  rw [h.codecs]
  cases d.getTransportInfo content.mid <;> simp [MediaContentDescription.mid]

/-- The transport of a section has the name of the section. -/
theorem mid_of_getTransportInfo {d : SessionDescription} {mid : Bytes} {td : TransportDescription}
    (h : td ∈ d.getTransportInfo mid) : td.mid = mid := by
  have hfind := List.find?_some (Option.mem_def.mp h)
  simpa using hfind

/-- A section of an offer is read, whatever comes behind it. -/
theorem parseLines_offered {d : SessionDescription} {content : MediaContentDescription}
    (h : OfferedContent ntop6 d content) {s : RemoteSdp} (hs : sectionAt s content.type = {})
    (rest : List Bytes) :
    s.parseLines (d.sectionLines ntop6 content ++ rest)
      = (afterSection s content.type (readOffered d content)).parseLines rest := by
  have hcandidates : ∀ line ∈ content.candidates.map (candidateLine ntop6), Inert line := by
    intro line hline
    obtain ⟨c, hc, rfl⟩ := List.mem_map.mp hline
    exact (candidateLine_inert (h.candidates c hc)).1
  have htransport : ∀ td ∈ d.getTransportInfo content.mid,
      td.mid = content.type.mid ∧ ReadTransport td :=
    fun td htd => ⟨mid_of_getTransportInfo htd, h.transport td htd⟩
  have htracks := lineEffect_trackLines h.sendStreams.read h.sendStreams.harmless
  -- part by part, each one with the rest of the text behind it
  rw [offeredLines_eq h, List.cons_append, List.append_assoc, List.append_assoc, List.append_assoc,
    List.append_assoc, parseLines_of_ok (offerLine_effect content.type s.mediaType),
    applyLine_mediaLine hs, parseLines_inert fun line hline => (connectionLines_inert line hline).1,
    parseLines_inert hcandidates, parseLines_offeredTransport htransport,
    parseLines_inert fun line hline => (attributeLines_inert _ _ _ line hline).1,
    parseLines_effects _ _ _ htracks (afterSection_mediaType _ _ _), sectionAt_afterSection,
    if_pos rfl, setSection_afterSection]
  rfl

/-- No line of a section has a line end inside, so the text splits into these lines again. -/
theorem lf_notMem_offered {d : SessionDescription} {content : MediaContentDescription}
    (h : OfferedContent ntop6 d content) : ∀ line ∈ d.sectionLines ntop6 content, lf ∉ line := by
  have hmedia : lf ∉ offerLine content.type := by
    cases content.type <;> decide +kernel
  rw [offeredLines_eq h]
  intro line hline
  simp only [List.mem_cons, List.mem_append] at hline
  rcases hline with rfl | hline | hline | hline | hline | hline
  · exact hmedia
  · exact (connectionLines_inert line hline).2
  · obtain ⟨c, hc, rfl⟩ := List.mem_map.mp hline
    exact (candidateLine_inert (h.candidates c hc)).2
  · cases htd : d.getTransportInfo content.mid with
    | none =>
        rw [htd] at hline
        exact absurd hline List.not_mem_nil
    | some td =>
        have hread := h.transport td htd
        rw [htd, offeredTransport, transportLines_split] at hline
        rcases List.mem_append.mp hline with hline | hline
        · obtain ⟨x, hx, rfl⟩ := List.mem_map.mp hline
          exact lf_notMem_transport hread x hx
        · exact (setupLines_inert hread line hline).2
  · exact (attributeLines_inert _ _ _ line hline).2
  · obtain ⟨x, hx, rfl⟩ := List.mem_map.mp hline
    exact lf_notMem_trackLines (fun track htrack => (h.sendStreams.read track htrack).1) x hx

/-- Sections of different types are read one after the other. By induction on them, as each is
read into a section that is still empty. -/
theorem parseLines_offeredSections {d : SessionDescription}
    (contents : List MediaContentDescription)
    (h : ∀ content ∈ contents, OfferedContent ntop6 d content) :
    ∀ s : RemoteSdp, (contents.map MediaContentDescription.type).Nodup →
      (∀ content ∈ contents, sectionAt s content.type = {}) →
      ∃ s', s.parseLines (contents.flatMap (d.sectionLines ntop6)) = .ok s' ∧
        s'.contents = s.contents ++ contents.map MediaContentDescription.type ∧
        (∀ type, type ∉ contents.map MediaContentDescription.type →
          sectionAt s' type = sectionAt s type) ∧
        ∀ content ∈ contents, sectionAt s' content.type = readOffered d content := by
  -- on the sections; a later one has another type, so it keeps what was read of the first
  induction contents with
  | nil => exact fun s _ _ => ⟨s, rfl, by simp, fun _ _ => rfl, by simp⟩
  | cons content contents ih =>
      intro s hnodup hs
      obtain ⟨hcontent, hcontents⟩ := List.forall_mem_cons.mp h
      obtain ⟨hfresh, hs⟩ := List.forall_mem_cons.mp hs
      rw [List.map_cons, List.nodup_cons] at hnodup
      obtain ⟨hnew, hnodup⟩ := hnodup
      have hother : ∀ c ∈ contents, c.type ≠ content.type :=
        fun c hc heq => hnew (List.mem_map.mpr ⟨c, hc, heq⟩)
      obtain ⟨s', hparse, hnames, hkeep, hread⟩ := ih hcontents
        (afterSection s content.type (readOffered d content)) hnodup
        fun c hc => by rw [sectionAt_afterSection, if_neg (hother c hc), hs c hc]
      refine ⟨s', ?_, ?_, ?_, ?_⟩
      · rw [List.flatMap_cons, parseLines_offered hcontent hfresh, hparse]
      · rw [hnames]
        simp [afterSection]
      · intro type htype
        rw [List.map_cons, List.mem_cons, not_or] at htype
        rw [hkeep type htype.2, sectionAt_afterSection, if_neg htype.1]
      · intro c hc
        rcases List.mem_cons.mp hc with rfl | hc
        · rw [hkeep c.type hnew, sectionAt_afterSection, if_pos rfl]
        · exact hread c hc

/-! ### The offer -/

/-- The lines in front of the sections. -/
theorem bundleLines_inert {d : SessionDescription} {types : List MediaType}
    (htypes : types ∈ [[], [MediaType.audio], [.video], [.audio, .video]])
    (h : d.contentGroups = [] ∨ d.contentGroups = [⟨ascii "BUNDLE", types.map MediaType.mid⟩]) :
    ∀ line ∈ SessionDescription.versionLines ++ d.bundleLines ++ [ascii "a=msid-semantic: WMS"],
      Inert line ∧ lf ∉ line := by
  have hall : ∀ bundle ∈ [[], [ascii "a=group:BUNDLE"], [ascii "a=group:BUNDLE audio"],
      [ascii "a=group:BUNDLE video"], [ascii "a=group:BUNDLE audio video"]],
      ∀ line ∈ SessionDescription.versionLines ++ bundle ++ [ascii "a=msid-semantic: WMS"],
        Inert line ∧ lf ∉ line := by
    decide +kernel
  refine hall d.bundleLines ?_
  have hbundle : ∀ types ∈ [[], [MediaType.audio], [.video], [.audio, .video]],
      [ascii "a=group:BUNDLE" ++ (types.map MediaType.mid).flatMap fun name => ascii " " ++ name] ∈
        [[], [ascii "a=group:BUNDLE"], [ascii "a=group:BUNDLE audio"],
          [ascii "a=group:BUNDLE video"], [ascii "a=group:BUNDLE audio video"]] := by
    decide +kernel
  unfold SessionDescription.bundleLines SessionDescription.getGroupByName
  rcases h with h | h
  · rw [h]
    exact List.mem_cons_self
  · rw [h, List.filter_cons_of_pos (by simp), List.filter_nil]
    dsimp only
    rw [List.flatMap_singleton]
    exact hbundle types htypes

/-- A section of an offer, as it is before candidates are attached to it. `Q` is what is known of
the candidates. -/
def IsOffered (Q : Candidate → Prop) (pc : PeerConnection) (options : RTCOfferAnswerOptions)
    (content : MediaContentDescription) : Prop :=
  (∀ c ∈ content.candidates, Q c) ∧
    content = { offerContent pc options content.type with candidates := content.candidates }

/-- The candidates do not touch the tracks of a section. -/
theorem IsOffered.sendStreams {Q : Candidate → Prop} {pc : PeerConnection}
    {options : RTCOfferAnswerOptions} {content : MediaContentDescription}
    (h : IsOffered Q pc options content) :
    content.sendStreams = (offerContent pc options content.type).sendStreams := by
  conv_lhs => rw [h.2]

/-- Candidates that are allowed keep the sections of an offer what they are. -/
theorem isOffered_addCandidates {Q : Candidate → Prop} {pc : PeerConnection}
    {options : RTCOfferAnswerOptions} {mid : Bytes} {candidates : List Candidate}
    (hcandidates : ∀ c ∈ candidates, Q c) {contents : List MediaContentDescription}
    (h : ∀ content ∈ contents, IsOffered Q pc options content) :
    ∀ content ∈ addCandidates mid candidates contents, IsOffered Q pc options content := by
  induction contents with
  | nil => exact h
  | cons content contents ih =>
      obtain ⟨hcontent, hcontents⟩ := List.forall_mem_cons.mp h
      rw [addCandidates]
      split_ifs
      · refine List.forall_mem_cons.mpr ⟨⟨hcandidates, ?_⟩, hcontents⟩
        show { content with candidates } = { offerContent pc options content.type with candidates }
        rw [hcontent.2]
        cases content.type <;> rfl
      · exact List.forall_mem_cons.mpr ⟨hcontent, ih hcontents⟩

/-- The sections of the description that is printed. -/
theorem contents_allocated {Q : Candidate → Prop} {pc : PeerConnection}
    {options : RTCOfferAnswerOptions} {allocated : Bytes → List Candidate}
    (hallocated : ∀ mid, ∀ c ∈ allocated mid, Q c) (names : List Bytes)
    {contents : List MediaContentDescription}
    (h : ∀ content ∈ contents, IsOffered Q pc options content) :
    (names.foldl (fun contents mid => addCandidates mid (allocated mid) contents) contents).map
        MediaContentDescription.type = contents.map MediaContentDescription.type ∧
      ∀ content ∈ names.foldl (fun contents mid => addCandidates mid (allocated mid) contents)
        contents, IsOffered Q pc options content := by
  -- on the transports that candidates were gathered for
  induction names generalizing contents with
  | nil => exact ⟨rfl, h⟩
  | cons mid names ih =>
      obtain ⟨htypes, hcontents⟩ := ih (isOffered_addCandidates (hallocated mid) h)
      exact ⟨htypes.trans (addCandidates_type mid (allocated mid) contents), hcontents⟩

/-- What an offer says is read, but for the group, the roles and the candidates. -/
structure OfferRead (d r : SessionDescription) : Prop where
  sections : r.contents.map MediaContentDescription.mid
    = d.contents.map MediaContentDescription.mid
  tracks : r.contents.map MediaContentDescription.sendStreams
    = d.contents.map MediaContentDescription.sendStreams
  transports : ∀ td ∈ d.transportInfos, r.getTransportInfo td.mid = some (readTransport td)

/-- The tracks of the sections of a description that was read. -/
theorem tracks_description (s : RemoteSdp) :
    s.description.contents.map MediaContentDescription.sendStreams
      = s.contents.map fun type => (sectionAt s type).tracks := by
  show (s.contents.map _).map _ = _
  rw [List.map_map]
  refine List.map_congr_left fun type _ => ?_
  cases type <;> rfl

/-- The text of a description, as the loop reads it: the lines in front, then its sections, and
what they leave is the description again. -/
theorem offerRead_of_contents {d : SessionDescription} {types : List MediaType}
    (htypes : types ∈ [[], [MediaType.audio], [.video], [.audio, .video]])
    (hgroups : d.contentGroups = [] ∨ d.contentGroups = [⟨ascii "BUNDLE", types.map MediaType.mid⟩])
    (hcontents : d.contents.map MediaContentDescription.type = types)
    (hoffered : ∀ content ∈ d.contents, OfferedContent ntop6 d content)
    (htransports : ∀ td ∈ d.transportInfos, d.getTransportInfo td.mid = some td ∧
      ∃ type ∈ types, td.mid = type.mid) :
    ∃ s, RemoteSdp.parseLines {} (sdpFields (d.toString ntop6)) = .ok s ∧
      OfferRead d s.description := by
  have hpreamble := bundleLines_inert htypes hgroups
  have hnodup : types.Nodup := by
    simp only [List.mem_cons, List.not_mem_nil, or_false] at htypes
    rcases htypes with rfl | rfl | rfl | rfl <;> decide
  have hfields : sdpFields (d.toString ntop6) = d.lines ntop6 := by
    refine sdpFields_printLines fun line hline => ?_
    rcases List.mem_append.mp hline with hline | hline
    · exact (hpreamble line hline).2
    · obtain ⟨content, hcontent, hline⟩ := List.mem_flatMap.mp hline
      exact lf_notMem_offered (hoffered content hcontent) line hline
  obtain ⟨s, hparse, hnames, -, hread⟩ := parseLines_offeredSections d.contents hoffered {}
    (by rw [hcontents]; exact hnodup) (fun content _ => by cases content.type <;> rfl)
  rw [List.nil_append] at hnames
  have hlines : RemoteSdp.parseLines {} (d.lines ntop6) = .ok s := by
    unfold SessionDescription.lines
    rw [parseLines_inert fun line hline => (hpreamble line hline).1, hparse]
  have hnamed : Named s := (parseLines_spec _ hlines).2.2.2 fun type => by cases type <;> rfl
  -- the section of a type that has been read
  have hsection : ∀ content ∈ d.contents,
      (sectionAt s content.type).tracks = content.sendStreams ∧
        (sectionAt s content.type).td
          = readOfferedTransport content.type (d.getTransportInfo content.mid) := by
    intro content hcontent
    rw [hread content hcontent]
    exact tracks_trackLines (hoffered content hcontent).sendStreams.separate _
  refine ⟨s, by rw [hfields]; exact hlines, ?_, ?_, ?_⟩
  · rw [mids_description, hnames, List.map_map]
    rfl
  · rw [tracks_description, hnames, List.map_map]
    exact List.map_congr_left fun content hcontent => (hsection content hcontent).1
  · intro td htd
    obtain ⟨hfound, type, htype, hmid⟩ := htransports td htd
    rw [← hcontents] at htype
    obtain ⟨content, hcontent, rfl⟩ := List.mem_map.mp htype
    have htd' := (hsection content hcontent).2
    rw [MediaContentDescription.mid, ← hmid, hfound] at htd'
    rw [hmid, getTransportInfo_description hnamed
      (by rw [hnames]; exact List.mem_map_of_mem hcontent), htd']
    rfl

/-- Tracks that a section of an accepted text has. -/
def AcceptedTracks (type : MediaType) (tracks : List StreamParams) : Prop :=
  ∃ sdp s, RemoteSdp.parseLines {} (sdpFields sdp) = .ok s ∧ (sectionAt s type).tracks = tracks

/-- No tracks at all are accepted. -/
theorem acceptedTracks_nil (type : MediaType) : AcceptedTracks type [] := by
  refine ⟨ascii "v=0", {}, ?_, by cases type <;> rfl⟩
  have hfields : sdpFields (ascii "v=0") = [ascii "v=0"] := by decide +kernel
  rw [hfields, parseLines_version]

/-- Accepted tracks can be printed, as soon as each of them is harmless. -/
theorem AcceptedTracks.printable {type : MediaType} {tracks : List StreamParams}
    (h : AcceptedTracks type tracks) (hharmless : ∀ track ∈ tracks, HarmlessTrack track) :
    Printable type tracks := by
  obtain ⟨sdp, s, hparse, rfl⟩ := h
  obtain ⟨hseparate, hread⟩ := readTracks_of_parseLines hparse type
  exact ⟨hseparate, hread, hharmless⟩

/-- An offer has at most an audio section and a video section behind it. -/
theorem offerTypes_mem (options : RTCOfferAnswerOptions) :
    offerTypes options ∈ [[], [MediaType.audio], [.video], [.audio, .video]] := by
  unfold offerTypes
  split_ifs <;> simp

/-- The tracks of a section of an offer are accepted ones, or none. -/
theorem printable_offerContent {pc : PeerConnection} {options : RTCOfferAnswerOptions}
    (haudio : AcceptedTracks .audio pc.audioSource) (hvideo : AcceptedTracks .video pc.videoSource)
    (hharmless : ∀ track ∈ pc.audioSource ++ pc.videoSource, HarmlessTrack track)
    (type : MediaType) : Printable type (offerContent pc options type).sendStreams := by
  obtain ⟨haudio', hvideo'⟩ := List.forall_mem_append.mp hharmless
  cases type with
  | audio =>
      show Printable .audio (if options.sendAudio then pc.audioSource else [])
      split_ifs
      · exact haudio.printable haudio'
      · exact printable_nil _
  | video =>
      show Printable .video (if options.sendVideo then pc.videoSource else [])
      split_ifs
      · exact hvideo.printable hvideo'
      · exact printable_nil _

/-- The sections of an offer, with any host candidates attached to them. -/
theorem contents_offer {Q : Candidate → Prop} {pc : PeerConnection}
    {options : RTCOfferAnswerOptions} {iceParam : IceParameters}
    {allocated : Bytes → List Candidate} (hallocated : ∀ mid, ∀ c ∈ allocated mid, Q c)
    (names : List Bytes)
    {d : SessionDescription} (hd : d = PeerConnection.onCandidatesAllocated allocated names
      (pc.offerDescription options iceParam)) :
    d.contents.map MediaContentDescription.type = offerTypes options ∧
      ∀ content ∈ d.contents, IsOffered Q pc options content := by
  have hcontents : (pc.offerDescription options iceParam).contents
      = (offerTypes options).map (offerContent pc options) := by
    rw [offerDescription_eq]
  have hbefore : ∀ content ∈ (pc.offerDescription options iceParam).contents,
      IsOffered Q pc options content := by
    rw [hcontents]
    intro content hcontent
    obtain ⟨type, -, rfl⟩ := List.mem_map.mp hcontent
    cases type <;> exact ⟨fun c hc => absurd hc List.not_mem_nil, rfl⟩
  obtain ⟨htypes, hafter⟩ := contents_allocated hallocated names hbefore
  subst hd
  refine ⟨htypes.trans ?_, hafter⟩
  rw [hcontents, List.map_map]
  exact List.map_id'' (offerContent_type pc options) _

section
variable {pc : PeerConnection} {options : RTCOfferAnswerOptions} {iceParam : IceParameters}
  {allocated : Bytes → List Candidate}
  (hufrag : IsRandomString iceParam.iceUfrag) (hpwd : IsRandomString iceParam.icePwd)
  (hfingerprint : ∀ fp, pc.certificate = some (some fp) → PrintedFingerprint fp)
  (hallocated : ∀ mid, ∀ c ∈ allocated mid, IsHostCandidate ntop6 c)
  (haudio : AcceptedTracks .audio pc.audioSource) (hvideo : AcceptedTracks .video pc.videoSource)
  (hharmless : ∀ track ∈ pc.audioSource ++ pc.videoSource, HarmlessTrack track)
include hufrag hpwd hfingerprint hallocated haudio hvideo hharmless

/-- An offer of accepted tracks is read again, with candidates attached to its sections, which the
reader passes over. -/
theorem offerDescription_read (names : List Bytes) {d : SessionDescription}
    (hd : d = PeerConnection.onCandidatesAllocated allocated names
      (pc.offerDescription options iceParam)) :
    ∃ s, RemoteSdp.parseLines {} (sdpFields (d.toString ntop6)) = .ok s ∧
      OfferRead d s.description := by
  obtain ⟨htypes, hoffered⟩ := contents_offer hallocated names hd
  have hoffer := offerDescription_eq pc options iceParam
  -- candidates change neither the group nor the transports
  have hgroups : d.contentGroups = (pc.offerDescription options iceParam).contentGroups := by
    rw [hd]
    rfl
  have hinfos : d.transportInfos = (pc.offerDescription options iceParam).transportInfos := by
    rw [hd]
    rfl
  rw [hoffer] at hgroups hinfos
  dsimp only at hgroups hinfos
  have hfind : ∀ type ∈ offerTypes options,
      d.getTransportInfo type.mid = offerTransport pc.certificate iceParam type := by
    intro type htype
    unfold SessionDescription.getTransportInfo
    rw [hinfos]
    exact getTransportInfo_offerTypes htype
  refine offerRead_of_contents (offerTypes_mem options) ?_ htypes ?_ ?_
  · rw [hgroups]
    split_ifs
    · exact .inr rfl
    · exact .inl rfl
  · -- a section has codecs of its type, a transport, and tracks
    intro content hcontent
    obtain ⟨hcandidates, heq⟩ := hoffered content hcontent
    have htype : content.type ∈ offerTypes options := by
      rw [← htypes]
      exact List.mem_map_of_mem hcontent
    refine ⟨?_, hcandidates, fun td htd => ?_, ?_⟩
    · rw [heq]
      cases content.type <;> rfl
    · obtain ⟨hiceUfrag, hicePwd, hrole, hprinted⟩ :=
        offerTransport_spec hfingerprint ((hfind content.type htype).symm.trans htd)
      exact ⟨hiceUfrag ▸ hufrag, hicePwd ▸ hpwd, hrole, hprinted⟩
    · rw [(hoffered content hcontent).sendStreams]
      exact printable_offerContent haudio hvideo hharmless content.type
  · intro td htd
    rw [hinfos] at htd
    obtain ⟨type, htype, htransport⟩ := List.mem_filterMap.mp htd
    have hmid := offerTransport_mid htransport
    refine ⟨?_, type, htype, hmid⟩
    rw [hmid]
    exact (hfind type htype).trans htransport

/-- The text that `create_offer` returns has the tracks it was made of, and the parser of the
server reads it again as the same sections, tracks and transports. Only the connection role is not
read: the parser has no case for its line. -/
theorem createOffer_read {sdp : Bytes} {pc' : PeerConnection}
    (hsdp : pc.createOffer ntop6 allocated options iceParam = (sdp, pc')) (hne : sdp ≠ []) :
    ∃ d, pc'.localDesc = some d ∧
      (d.contents.map MediaContentDescription.type = offerTypes options ∧
        ∀ content ∈ d.contents,
          content.sendStreams = (offerContent pc options content.type).sendStreams) ∧
      ∃ s, RemoteSdp.parseLines {} (sdpFields sdp) = .ok s ∧ OfferRead d s.description := by
  unfold PeerConnection.createOffer at hsdp
  split_ifs at hsdp
  · cases hsdp
    exact absurd rfl hne
  · cases hsdp
    obtain ⟨htypes, hoffered⟩ := contents_offer hallocated _ rfl
    refine ⟨_, rfl, ⟨htypes, fun content hcontent => ?_⟩, ?_⟩
    · exact (hoffered content hcontent).sendStreams
    · exact offerDescription_read hufrag hpwd hfingerprint hallocated haudio hvideo hharmless _ rfl

end

/-- A text with a fingerprint and a track. -/
def voiceText : Bytes :=
  ascii "m=audio 9 X\na=fingerprint:sha-256 01\na=ssrc:7 cname:c\na=ssrc:7 msid:1 voice\n"

/-- Its track. -/
def voiceTrack : StreamParams where
  id := ascii "voice"
  cname := ascii "c"
  streamId := ascii "1"
  ssrcs := [7]

/-- A connection that sends it. -/
def voiceSender : PeerConnection where
  certificate := some (some ⟨ascii "sha-1", List.replicate 20 0xab⟩)
  audioSource := [voiceTrack]

/-- The tracks of a push answer with one audio track. -/
theorem voiceText_tracks : ∃ s, RemoteSdp.parseLines {} (sdpFields voiceText) = .ok s ∧
    s.audio.tracks = [voiceTrack] ∧ s.video.tracks = [] := by
  have hread : (RemoteSdp.parseLines {} (sdpFields voiceText)).toOption.map
      (fun s => (s.audio.tracks, s.video.tracks)) = some ([voiceTrack], []) := by
    decide +kernel
  obtain ⟨s, hs, htracks⟩ := Option.map_eq_some_iff.mp hread
  simp only [Prod.mk.injEq] at htracks
  refine ⟨s, ?_, htracks⟩
  cases hparse : RemoteSdp.parseLines {} (sdpFields voiceText) with
  | error e =>
      rw [hparse] at hs
      cases hs
  | ok s' =>
      rw [hparse] at hs
      cases hs
      rfl

/-- Its track can be printed. -/
theorem harmless_voiceTrack : HarmlessTrack voiceTrack :=
  ⟨by decide +kernel, by decide +kernel, by decide +kernel,
    fun group hgroup => absurd hgroup List.not_mem_nil⟩

/-- The text of a description is not empty. -/
theorem toString_ne_nil (d : SessionDescription) : d.toString ntop6 ≠ [] := by
  have hversion : printLines SessionDescription.versionLines ≠ [] := by decide +kernel
  have happend : d.toString ntop6 = printLines SessionDescription.versionLines ++
      printLines (d.bundleLines ++ [ascii "a=msid-semantic: WMS"] ++
        d.contents.flatMap (d.sectionLines ntop6)) := by
    unfold SessionDescription.toString SessionDescription.lines
    rw [List.append_assoc, List.append_assoc, List.append_assoc]
    exact List.flatMap_append
  rw [happend]
  exact List.append_ne_nil_of_left_ne_nil hversion _

/-- The offer that passes this track on, printed and read again: one section with one track. -/
theorem voiceSender_read : ∃ sdp pc' d,
    voiceSender.createOffer (fun _ => []) (fun _ => [loopbackCandidate]) { recvAudio := false }
      drawn.iceParam = (sdp, pc') ∧ pc'.localDesc = some d ∧
      ∃ s, RemoteSdp.parseLines {} (sdpFields sdp) = .ok s ∧ OfferRead d s.description := by
  have hfingerprint : ∀ fp, voiceSender.certificate = some (some fp) → PrintedFingerprint fp := by
    intro fp hfp
    cases hfp
    exact ⟨by decide +kernel, by simp, by decide +kernel⟩
  have hallocated : ∀ mid, ∀ c ∈ (fun _ : Bytes => [loopbackCandidate]) mid,
      IsHostCandidate (fun _ => []) c := by
    intro mid c hc
    rw [List.mem_singleton.mp hc]
    exact ⟨_, _, _, _, rfl⟩
  have hharmless : ∀ track ∈ voiceSender.audioSource ++ voiceSender.videoSource,
      HarmlessTrack track := by
    intro track htrack
    rw [List.mem_singleton.mp htrack]
    exact harmless_voiceTrack
  have haccepted : AcceptedTracks .audio voiceSender.audioSource := by
    obtain ⟨s, hs, haudio, -⟩ := voiceText_tracks
    exact ⟨voiceText, s, hs, haudio⟩
  let offer := voiceSender.createOffer (fun _ => []) (fun _ => [loopbackCandidate])
    { recvAudio := false } drawn.iceParam
  obtain ⟨d, hd, -, hs⟩ := @createOffer_read (fun _ => []) voiceSender { recvAudio := false }
    drawn.iceParam (fun _ => [loopbackCandidate]) drawn_spec.iceUfrag drawn_spec.icePwd
    hfingerprint hallocated haccepted (acceptedTracks_nil .video) hharmless offer.1
    offer.2 rfl (toString_ne_nil _)
  exact ⟨offer.1, offer.2, d, rfl, hd, hs⟩

end Xrtc.Proofs.Stream
