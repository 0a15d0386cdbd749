import Xrtc.Proofs.Pc.InertLines
import Xrtc.Sdk.Signaling

/-!
# `Xrtc.Proofs.Sdk.AnswerParsed`: the answer as the server reads it

The server takes the text of an answer of the SDK line by line. Most lines are inert, and
the others have an effect in the section they are in (`streamEffects` for those of the
streams). So a section is read into the local objects `readSection` says, whatever was read
before (`parseLines_sectionLines`).

All of an answer is found again but its group: the SDK writes `a=group:BUNDLE`, and
`set_remote_sdp` looks for `m=group:BUNDLE`. `answer_recovered_iff` says that the answer is
recovered exactly if it has no group.
-/

set_option autoImplicit false

namespace Xrtc.Proofs.Sdk

open Xrtc.Base
open Xrtc.Lib
open Xrtc.Ice (ascii colon IceParameters)
open Xrtc.Pc (MediaType RtpDirection StreamParams SsrcGroup SsrcInfo RemoteSection RemoteSdp opusCodec
  h264Codec rtxCodec rtpMapLines rtpDirectionLine mediaLine ssrcLine ssrcGroupLine
  createTrackFromSsrcInfo)
open Xrtc.Sdk
open Xrtc.Proofs.Base
open Xrtc.Proofs.Pc

/-! ### Random texts -/

/-- A text of `rtc::CreateRandomString`. -/
def IsRandomString (s : Bytes) : Prop := s ≠ [] ∧ ∀ b ∈ s, b ∈ kBase64

/-- A drawn text has no character that is not drawn. -/
theorem IsRandomString.not_mem {s : Bytes} (h : IsRandomString s) {b : UInt8} (hb : b ∉ kBase64) :
    b ∉ s :=
  fun hmem => hb (h.2 b hmem)

/-- No character of a random text separates fields or lines. -/
theorem notMem_kBase64 : equals ∉ kBase64 ∧ colon ∉ kBase64 ∧ space ∉ kBase64 ∧ lf ∉ kBase64 := by
  simp [kBase64, ascii, equals, colon, space, lf]

/-- A text of digits. -/
def IsDigits (s : Bytes) : Prop := ∀ b ∈ s, isDigit b = true

/-- A number has no character that is no digit. -/
theorem IsDigits.not_mem {s : Bytes} (h : IsDigits s) {b : UInt8} (hb : isDigit b = false) :
    b ∉ s := by
  intro hmem
  rw [h b hmem] at hb
  cases hb

/-- The values that an answer is made with: random texts, and ssrcs that differ. -/
structure Drawn (random : AnswerRandom) : Prop where
  iceUfrag : IsRandomString random.iceParam.iceUfrag
  icePwd : IsRandomString random.iceParam.icePwd
  cname : IsRandomString random.cname
  audioId : IsRandomString random.audioId
  videoId : IsRandomString random.videoId
  ssrcs : [random.audioSsrc, random.videoSsrc, random.videoRtxSsrc].Nodup

/-! ### Runs over lines -/

/-- Lines without an effect can stand in front of any others. The induction is on the block, and
the parser comes through it in the state it was in. -/
theorem parseLines_inert {block : List Bytes} (h : ∀ line ∈ block, Inert line) (rest : List Bytes)
    (s : RemoteSdp) : s.parseLines (block ++ rest) = s.parseLines rest := by
  induction block with
  | nil => rfl
  | cons line block ih =>
      obtain ⟨hline, hblock⟩ := List.forall_mem_cons.mp h
      rw [List.cons_append, ← List.nil_append (line :: (block ++ rest)),
        parseLines_insert hline [] (block ++ rest) s, List.nil_append, ih hblock]

/-- Lines that have an effect in the current section only. -/
theorem parseLines_effects {type : MediaType} (block : List (Bytes × SectionEffect))
    (rest : List Bytes) :
    ∀ (s : RemoteSdp),
      (∀ x ∈ block, lineEffect type.mid x.1 = .ok { current := some (type, x.2) }) →
      s.mediaType = type.mid →
      s.parseLines (block.map Prod.fst ++ rest)
        = (setSection s type (block.foldl (fun sec x => applySection sec x.2)
            (sectionAt s type))).parseLines rest := by
  -- on the lines, from any local objects in this section
  induction block with
  | nil =>
      intro s _ _
      have hsame : setSection s type (sectionAt s type) = s := by cases type <;> rfl
      rw [List.foldl_nil, hsame]
      rfl
  | cons x block ih =>
      intro s h hs
      obtain ⟨hx, hblock⟩ := List.forall_mem_cons.mp h
      rw [← hs] at hx
      rw [List.map_cons, List.cons_append, parseLines_of_ok hx, applyLine_section,
        ih _ hblock ((setSection_mediaType _ _ _).trans hs), sectionAt_setSection, if_pos rfl,
        List.foldl_cons]
      congr 1
      cases type <;> rfl

/-! ### The lines of the streams -/

/-- The lines of the streams, with what the server takes from them. -/
def streamEffects (streams : List StreamParams) : List (Bytes × SectionEffect) :=
  streams.flatMap fun stream =>
    ((stream.ssrcGroups.filter fun g => g.ssrcs ≠ []).map fun g =>
        (ssrcGroupLine (ascii "FID") g.ssrcs, { group := some ⟨ascii "FID", g.ssrcs⟩ })) ++
      stream.ssrcs.flatMap fun ssrc =>
        [(ssrcLine ssrc (ascii "cname") stream.cname, { ssrc := some (ssrc, .cname stream.cname) }),
          (ssrcLine ssrc (ascii "msid") (stream.streamId ++ ascii " " ++ stream.id),
            { ssrc := some (ssrc, .msid stream.streamId (some stream.id)) })]

/-- The lines of the streams with what they do, without what they do, are the printed lines. -/
theorem streamEffects_fst (streams : List StreamParams) :
    (streamEffects streams).map Prod.fst = ssrcLines streams := by
  unfold streamEffects ssrcLines
  rw [List.map_flatMap]
  refine List.flatMap_congr fun stream _ => ?_
  rw [List.map_append, List.map_map, List.map_flatMap]
  rfl

/-- The fields of a stream that can be read back. -/
structure Readable (type : MediaType) (stream : StreamParams) : Prop where
  cname : IsRandomString stream.cname
  streamId : IsDigits stream.streamId
  id : IsRandomString stream.id
  ssrcGroups : type = .video ∨ stream.ssrcGroups = []

/-- `msid` gives back the id of the stream and of the track, neither of which has a blank. -/
theorem parseSsrcAttribute_msid {streamId id : Bytes} (hstreamId : space ∉ streamId)
    (hid : space ∉ id) :
    Pc.parseSsrcAttribute (ascii "msid") (streamId ++ ascii " " ++ id)
      = .ok (.msid streamId (some id)) := by
  have hne : ascii "msid" ≠ ascii "cname" := by simp [ascii]
  have hblank : ascii " " = [space] := by simp [ascii, space]
  unfold Pc.parseSsrcAttribute Pc.parseMsid
  rw [if_neg hne, if_pos rfl, hblank, List.append_assoc, List.singleton_append,
    split_append streamId id hstreamId, split_of_not_mem id hid]
  rfl

/-- The `cname` line of an ssrc does what it says, in the section of its type. A drawn name has no
colon and no blank that would end it. -/
theorem lineEffect_cnameLine (type : MediaType) (ssrc : UInt32) {cname : Bytes}
    (h : IsRandomString cname) :
    lineEffect type.mid (ssrcLine ssrc (ascii "cname") cname)
      = .ok { current := some (type, { ssrc := some (ssrc, .cname cname) }) } := by
  have hattr : Pc.parseSsrcAttribute (ascii "cname") cname = .ok (.cname cname) := by
    unfold Pc.parseSsrcAttribute
    rw [if_pos rfl]
  have hhead : (ascii "cname").head? = some 0x63 := by simp [ascii]
  refine lineEffect_ssrcLine type ssrc hattr ?_ (by simp [ascii, colon]) ?_ ?_
  · rw [List.mem_append, not_or]
    exact ⟨by simp [ascii, equals], h.not_mem (by simp [notMem_kBase64])⟩
  · rw [List.head?_append, hhead, Option.some_or]
    decide
  · intro hcolon
    exact h.not_mem (by simp [notMem_kBase64]) (List.mem_of_head? hcolon)

/-- So does its `msid` line. The two ids have no blank inside, so they come apart at the one
between them. -/
theorem lineEffect_msidLine (type : MediaType) (ssrc : UInt32) {streamId id : Bytes}
    (hstreamId : IsDigits streamId) (hid : IsRandomString id) :
    lineEffect type.mid (ssrcLine ssrc (ascii "msid") (streamId ++ ascii " " ++ id))
      = .ok { current := some (type, { ssrc := some (ssrc, .msid streamId (some id)) }) } := by
  have hhead : (ascii "msid").head? = some 0x6d := by simp [ascii]
  have hblank : (ascii " ").head? = some space := by simp [ascii, space]
  refine lineEffect_ssrcLine type ssrc
    (parseSsrcAttribute_msid (hstreamId.not_mem (by decide)) (hid.not_mem (by simp [notMem_kBase64])))
    ?_ (by simp [ascii, colon]) ?_ ?_
  · simp only [List.mem_append, not_or]
    exact ⟨by simp [ascii, equals], ⟨hstreamId.not_mem (by decide), by simp [ascii, equals]⟩,
      hid.not_mem (by simp [notMem_kBase64])⟩
  · rw [List.head?_append, hhead, Option.some_or]
    decide
  · rw [List.append_assoc, List.head?_append, List.head?_append, hblank]
    cases hdigit : streamId.head? with
    | none =>
        rw [Option.none_or, Option.some_or]
        decide
    | some b =>
        rw [Option.some_or]
        intro hcolon
        have hb := hstreamId b (List.mem_of_head? hdigit)
        cases hcolon
        cases hb

/-- So do all the lines of the streams of a section: first the groups, then the ssrcs, each with
its name and its ids. -/
theorem lineEffect_streamEffects {type : MediaType} {streams : List StreamParams}
    (h : ∀ stream ∈ streams, Readable type stream) :
    ∀ x ∈ streamEffects streams, lineEffect type.mid x.1 = .ok { current := some (type, x.2) } := by
  intro x hx
  obtain ⟨stream, hstream, hx⟩ := List.mem_flatMap.mp hx
  obtain ⟨hcname, hstreamId, hid, hgroups⟩ := h stream hstream
  rcases List.mem_append.mp hx with hx | hx
  · obtain ⟨g, hg, rfl⟩ := List.mem_map.mp hx
    obtain ⟨hmem, hne⟩ := List.mem_filter.mp hg
    rcases hgroups with rfl | hnone
    · exact lineEffect_ssrcGroupLine (by simp [ascii]) (by simp [ascii, equals])
        (by simp [ascii, colon]) (by simp [ascii, space]) (of_decide_eq_true hne)
    · rw [hnone] at hmem
      exact absurd hmem List.not_mem_nil
  · obtain ⟨ssrc, -, hx⟩ := List.mem_flatMap.mp hx
    rcases List.mem_cons.mp hx with rfl | hx
    · exact lineEffect_cnameLine type ssrc hcname
    · obtain rfl := List.mem_singleton.mp hx
      exact lineEffect_msidLine type ssrc hstreamId hid

/-- None of these lines has a line feed in it, so each stays one line. -/
theorem lf_notMem_streamEffects {type : MediaType} {streams : List StreamParams}
    (h : ∀ stream ∈ streams, Readable type stream) : ∀ x ∈ streamEffects streams, lf ∉ x.1 := by
  have hattribute : lf ∉ ascii "a=" := by simp [ascii, lf]
  intro x hx
  obtain ⟨stream, hstream, hx⟩ := List.mem_flatMap.mp hx
  obtain ⟨hcname, hstreamId, hid, -⟩ := h stream hstream
  rcases List.mem_append.mp hx with hx | hx
  · obtain ⟨g, -, rfl⟩ := List.mem_map.mp hx
    dsimp only
    rw [ssrcGroupLine_eq, List.mem_append, not_or]
    exact ⟨hattribute, not_mem_ssrcGroupValue (by simp [ascii, lf]) (by decide) (by decide)
      (by simp [ascii, lf]) _⟩
  · obtain ⟨ssrc, -, hx⟩ := List.mem_flatMap.mp hx
    rcases List.mem_cons.mp hx with rfl | hx
    · dsimp only
      rw [ssrcLine_eq, List.mem_append, not_or]
      exact ⟨hattribute, not_mem_ssrcValue (by simp [ascii, lf]) (by decide) _ (by simp [ascii, lf])
        (hcname.not_mem (by simp [notMem_kBase64]))⟩
    · obtain rfl := List.mem_singleton.mp hx
      dsimp only
      rw [ssrcLine_eq, List.mem_append, not_or]
      refine ⟨hattribute,
        not_mem_ssrcValue (by simp [ascii, lf]) (by decide) _ (by simp [ascii, lf]) ?_⟩
      simp only [List.mem_append, not_or]
      exact ⟨⟨hstreamId.not_mem (by decide), by simp [ascii, lf]⟩,
        hid.not_mem (by simp [notMem_kBase64])⟩

/-! ### A section -/

/-- The codecs of a section of an answer. -/
def codecsOf : MediaType → List Pc.CodecInfo
  | .audio => [opusCodec]
  | .video => [h264Codec, rtxCodec]

/-- What the server makes of a section with these credentials and streams. -/
def readSection (type : MediaType) (iceParam : IceParameters) (streams : List StreamParams) :
    RemoteSection :=
  (streamEffects streams).foldl (fun sec x => applySection sec x.2)
    { td := { mid := type.mid, iceUfrag := iceParam.iceUfrag, icePwd := iceParam.icePwd } }

/-- The `m=` line of a section begins the section of its name and has no other effect. -/
theorem mediaLine_effect (type : MediaType) (mediaType : Bytes) :
    lineEffect mediaType (mediaLine type.mid (ascii "RTP/SAVPF") (codecsOf type))
      = .ok { media := .enter type.mid, current := some (type, {}) } := by
  have hmedia : mediaEffect (mediaLine type.mid (ascii "RTP/SAVPF") (codecsOf type))
      = .ok (.enter type.mid) := by
    cases type <;> decide +kernel
  have hsection : sectionEffect type (mediaLine type.mid (ascii "RTP/SAVPF") (codecsOf type))
      = .ok {} := by
    cases type <;> decide +kernel
  rw [lineEffect, hmedia]
  dsimp only [bind, Except.bind, afterMedia]
  rw [sectionType_mid]
  dsimp only
  rw [hsection]
  rfl

/-- The lines that are the same in every section. -/
def connectionLines : List Bytes := [ascii "c=IN IP4 0.0.0.0", ascii "a=rtcp:9 IN IP4 0.0.0.0"]

/-- The lines of the credentials, with what the server takes from them. -/
def credentialEffects (iceParam : IceParameters) : List (Bytes × SectionEffect) :=
  [(ascii "a=ice-ufrag:" ++ iceParam.iceUfrag, { transport := .iceUfrag iceParam.iceUfrag }),
    (ascii "a=ice-pwd:" ++ iceParam.icePwd, { transport := .icePwd iceParam.icePwd })]

/-- The lines behind the credentials. -/
def attributeLines (type : MediaType) (direction : RtpDirection) (rtcpMux : Bool) : List Bytes :=
  [ascii "a=mid:" ++ type.mid, rtpDirectionLine direction] ++
    (if rtcpMux then [ascii "a=rtcp-mux"] else []) ++ rtpMapLines type (codecsOf type)

/-- The two lines about the connection have no effect. -/
theorem connectionLines_inert : ∀ line ∈ connectionLines, Inert line ∧ lf ∉ line := by
  decide +kernel

/-- What holds of each of them holds of all. -/
theorem forall_attributeLines {type : MediaType} {direction : RtpDirection} {rtcpMux : Bool}
    {P : Bytes → Prop} (hmid : P (ascii "a=mid:" ++ type.mid))
    (hdirection : P (rtpDirectionLine direction)) (hmux : P (ascii "a=rtcp-mux"))
    (hcodecs : ∀ line ∈ rtpMapLines type (codecsOf type), P line) :
    ∀ line ∈ attributeLines type direction rtcpMux, P line := by
  unfold attributeLines
  intro line hline
  simp only [List.mem_append, List.mem_cons, List.not_mem_nil, or_false] at hline
  rcases hline with ((rfl | rfl) | hline) | hline
  · exact hmid
  · exact hdirection
  · split at hline
    · rwa [List.mem_singleton.mp hline]
    · exact absurd hline List.not_mem_nil
  · exact hcodecs line hline

/-- Neither have the lines of the direction, of the codecs and of the multiplexing, and none of
them has a line feed. -/
theorem attributeLines_inert (type : MediaType) (direction : RtpDirection) (rtcpMux : Bool) :
    ∀ line ∈ attributeLines type direction rtcpMux, Inert line ∧ lf ∉ line := by
  refine forall_attributeLines ?_ ?_ ?_ ?_
  · cases type <;> decide +kernel
  · cases direction <;> decide +kernel
  · decide +kernel
  · cases type <;> decide +kernel

/-- The lines of a section in the order they are printed: its `m=` line, the connection, the
credentials, the attributes, and the streams. -/
theorem sectionLines_eq {d : SessionDescription} {content : MediaContentDescription}
    {iceParam : IceParameters} (hcodecs : content.codecs = codecsOf content.type)
    (htd : d.getTransportInfo content.mid
      = some { mid := content.mid, iceUfrag := iceParam.iceUfrag, icePwd := iceParam.icePwd }) :
    d.sectionLines content
      = mediaLine content.type.mid (ascii "RTP/SAVPF") (codecsOf content.type) ::
        (connectionLines ++ ((credentialEffects iceParam).map Prod.fst ++
        (attributeLines content.type content.direction content.rtcpMux ++
        (streamEffects content.sendStreams).map Prod.fst))) := by
  rw [streamEffects_fst]
  unfold SessionDescription.sectionLines attributeLines connectionLines credentialEffects
  rw [htd, hcodecs]
  simp [MediaContentDescription.mid]

/-- No line of a section has a line feed, so the text of an answer splits into the lines it was
made of. -/
theorem lf_notMem_sectionLines {d : SessionDescription} {content : MediaContentDescription}
    {iceParam : IceParameters} (hcodecs : content.codecs = codecsOf content.type)
    (htd : d.getTransportInfo content.mid
      = some { mid := content.mid, iceUfrag := iceParam.iceUfrag, icePwd := iceParam.icePwd })
    (hufrag : IsRandomString iceParam.iceUfrag) (hpwd : IsRandomString iceParam.icePwd)
    (hstreams : ∀ stream ∈ content.sendStreams, Readable content.type stream) :
    ∀ line ∈ d.sectionLines content, lf ∉ line := by
  have hmedia : lf ∉ mediaLine content.type.mid (ascii "RTP/SAVPF") (codecsOf content.type) := by
    cases content.type <;> decide +kernel
  rw [sectionLines_eq hcodecs htd]
  intro line hline
  simp only [List.mem_cons, List.mem_append] at hline
  rcases hline with rfl | hline | hline | hline | hline
  · exact hmedia
  · exact (connectionLines_inert line hline).2
  · unfold credentialEffects at hline
    simp only [List.map_cons, List.map_nil, List.mem_cons, List.not_mem_nil, or_false] at hline
    rcases hline with rfl | rfl
    · rw [List.mem_append, not_or]
      exact ⟨by simp [ascii, lf], hufrag.not_mem (by simp [notMem_kBase64])⟩
    · rw [List.mem_append, not_or]
      exact ⟨by simp [ascii, lf], hpwd.not_mem (by simp [notMem_kBase64])⟩
  · exact (attributeLines_inert _ _ _ line hline).2
  · obtain ⟨x, hx, rfl⟩ := List.mem_map.mp hline
    exact lf_notMem_streamEffects hstreams x hx

/-- The local objects when a section has been read. -/
def afterSection (s : RemoteSdp) (type : MediaType) (sec : RemoteSection) : RemoteSdp :=
  setSection { s with contents := s.contents ++ [type], mediaType := type.mid } type sec

/-- The section that was read last is the current one. -/
@[simp] theorem afterSection_mediaType (s : RemoteSdp) (type : MediaType) (sec : RemoteSection) :
    (afterSection s type sec).mediaType = type.mid :=
  setSection_mediaType _ _ _

/-- Its local objects are what was read, and the other section is as before. -/
theorem sectionAt_afterSection (s : RemoteSdp) (type type' : MediaType) (sec : RemoteSection) :
    sectionAt (afterSection s type sec) type' = if type' = type then sec else sectionAt s type' := by
  unfold afterSection
  rw [sectionAt_setSection]
  cases type' <;> rfl

/-- What is read of a section later takes the place of what was read of it earlier. -/
theorem setSection_afterSection (s : RemoteSdp) (type : MediaType) (sec sec' : RemoteSection) :
    setSection (afterSection s type sec) type sec' = afterSection s type sec' := by
  cases type <;> rfl

/-- The `m=` line makes its section the current one. The section has no local objects before. -/
theorem applyLine_mediaLine {s : RemoteSdp} {type : MediaType} (hs : sectionAt s type = {}) :
    applyLine s { media := .enter type.mid, current := some (type, {}) }
      = afterSection s type { td := { mid := type.mid } } := by
  have henter : s.enter type.mid = afterSection s type { td := { mid := type.mid } } := by
    rw [enter_eq, sectionType_mid]
    cases type with
    | audio =>
        show afterSection s .audio
          { s.audio with td := { s.audio.td with mid := MediaType.audio.mid } } = _
        rw [show s.audio = {} from hs]
    | video =>
        show afterSection s .video
          { s.video with td := { s.video.td with mid := MediaType.video.mid } } = _
        rw [show s.video = {} from hs]
  show setSection (s.enter type.mid) type (applySection (sectionAt (s.enter type.mid) type) {}) = _
  rw [henter, applySection_default, sectionAt_afterSection, if_pos rfl, setSection_afterSection]

/-- A section of an answer is read, whatever comes behind it: its lines say the credentials of its
transport and its streams, and the others are passed over. -/
theorem parseLines_sectionLines {d : SessionDescription} {content : MediaContentDescription}
    {iceParam : IceParameters} (hcodecs : content.codecs = codecsOf content.type)
    (htd : d.getTransportInfo content.mid
      = some { mid := content.mid, iceUfrag := iceParam.iceUfrag, icePwd := iceParam.icePwd })
    (hufrag : IsRandomString iceParam.iceUfrag) (hpwd : IsRandomString iceParam.icePwd)
    (hstreams : ∀ stream ∈ content.sendStreams, Readable content.type stream) {s : RemoteSdp}
    (hs : sectionAt s content.type = {}) (rest : List Bytes) :
    s.parseLines (d.sectionLines content ++ rest)
      = (afterSection s content.type
          (readSection content.type iceParam content.sendStreams)).parseLines rest := by
  -- the credentials and the streams have an effect, all other lines are inert
  have hcredentials : ∀ x ∈ credentialEffects iceParam,
      lineEffect content.type.mid x.1 = .ok { current := some (content.type, x.2) } := by
    unfold credentialEffects
    simp only [List.forall_mem_cons]
    exact ⟨lineEffect_iceUfrag _ hufrag.1 (hufrag.not_mem (by simp [notMem_kBase64]))
        (hufrag.not_mem (by simp [notMem_kBase64])),
      lineEffect_icePwd _ hpwd.1 (hpwd.not_mem (by simp [notMem_kBase64]))
        (hpwd.not_mem (by simp [notMem_kBase64])), fun x hx => absurd hx List.not_mem_nil⟩
  rw [sectionLines_eq hcodecs htd, List.cons_append, List.append_assoc, List.append_assoc,
    List.append_assoc, parseLines_of_ok (mediaLine_effect content.type s.mediaType),
    applyLine_mediaLine hs, parseLines_inert fun line hline => (connectionLines_inert line hline).1,
    parseLines_effects _ _ _ hcredentials (afterSection_mediaType _ _ _),
    sectionAt_afterSection, if_pos rfl, setSection_afterSection,
    parseLines_inert fun line hline => (attributeLines_inert _ _ _ line hline).1,
    parseLines_effects _ _ _ (lineEffect_streamEffects hstreams) (afterSection_mediaType _ _ _),
    sectionAt_afterSection, if_pos rfl, setSection_afterSection]
  rfl

/-- Sections of different types are read one after the other. By induction on them, as each is
read into a section that is still empty. -/
theorem parseLines_sections {d : SessionDescription} {iceParam : IceParameters}
    (hufrag : IsRandomString iceParam.iceUfrag) (hpwd : IsRandomString iceParam.icePwd)
    (contents : List MediaContentDescription)
    (hcontents : ∀ content ∈ contents, content.codecs = codecsOf content.type ∧
      d.getTransportInfo content.mid
        = some { mid := content.mid, iceUfrag := iceParam.iceUfrag, icePwd := iceParam.icePwd } ∧
      ∀ stream ∈ content.sendStreams, Readable content.type stream) :
    ∀ s : RemoteSdp, (contents.map MediaContentDescription.type).Nodup →
      (∀ content ∈ contents, sectionAt s content.type = {}) →
      ∃ s', s.parseLines (contents.flatMap d.sectionLines) = .ok s' ∧
        s'.contents = s.contents ++ contents.map MediaContentDescription.type ∧
        s'.contentGroups = s.contentGroups ∧
        (∀ type, type ∉ contents.map MediaContentDescription.type →
          sectionAt s' type = sectionAt s type) ∧
        ∀ content ∈ contents, sectionAt s' content.type
          = readSection content.type iceParam content.sendStreams := by
  -- on the sections; a later one has another type, so it keeps what was read of the first
  induction contents with
  | nil => exact fun s _ _ => ⟨s, rfl, by simp, rfl, fun _ _ => rfl, by simp⟩
  | cons content contents ih =>
      intro s hnodup hs
      obtain ⟨⟨hcodecs, htd, hstreams⟩, hcontents⟩ := List.forall_mem_cons.mp hcontents
      obtain ⟨hcontent, hs⟩ := List.forall_mem_cons.mp hs
      rw [List.map_cons, List.nodup_cons] at hnodup
      obtain ⟨hnew, hnodup⟩ := hnodup
      have hother : ∀ c ∈ contents, c.type ≠ content.type :=
        fun c hc heq => hnew (List.mem_map.mpr ⟨c, hc, heq⟩)
      obtain ⟨s', hparse, hnames, hgroups, hkeep, hread⟩ := ih hcontents
        (afterSection s content.type (readSection content.type iceParam content.sendStreams)) hnodup
        fun c hc => by rw [sectionAt_afterSection, if_neg (hother c hc), hs c hc]
      refine ⟨s', ?_, ?_, ?_, fun type htype => ?_, fun c hc => ?_⟩
      · rw [List.flatMap_cons, parseLines_sectionLines hcodecs htd hufrag hpwd hstreams hcontent,
          hparse]
      · rw [hnames]
        simp [afterSection]
      · rw [hgroups]
        exact setSection_contentGroups _ _ _
      · rw [List.map_cons, List.mem_cons, not_or] at htype
        rw [hkeep type htype.2, sectionAt_afterSection, if_neg htype.1]
      · rcases List.mem_cons.mp hc with rfl | hc
        · rw [hkeep c.type hnew, sectionAt_afterSection, if_pos rfl]
        · exact hread c hc

/-! ### The answer -/

/-- The sections that an answer has. -/
def answerTypes (options : RTCOfferAnswerOptions) : List MediaType :=
  (if options.sendAudio || options.recvAudio then [.audio] else []) ++
    if options.sendVideo || options.recvVideo then [.video] else []

/-- A section of an answer. -/
def answerContent (options : RTCOfferAnswerOptions) (streamId : Bytes) (random : AnswerRandom) :
    MediaType → MediaContentDescription
  | .audio =>
      { audioContentDescription with
          direction := Pc.getDirection options.sendAudio options.recvAudio
          rtcpMux := options.useRtcpMux
          sendStreams := if options.sendAudio then [audioStream streamId random] else [] }
  | .video =>
      { videoContentDescription with
          direction := Pc.getDirection options.sendVideo options.recvVideo
          rtcpMux := options.useRtcpMux
          sendStreams := if options.sendVideo then videoStreams streamId random else [] }

/-- There are four answers by their sections: without any, with one of the two, and with both. -/
theorem answerTypes_cases (options : RTCOfferAnswerOptions) :
    answerTypes options = [] ∨ answerTypes options = [.audio] ∨ answerTypes options = [.video] ∨
      answerTypes options = [.audio, .video] := by
  unfold answerTypes
  split_ifs <;> simp

/-- What an answer says. -/
theorem answerDescription_eq (options : RTCOfferAnswerOptions) (streamId : Bytes)
    (random : AnswerRandom) :
    answerDescription options streamId random =
      { sdpType := .answer
        contents := (answerTypes options).map (answerContent options streamId random)
        contentGroups :=
          if options.useRtpMux = true ∧ answerTypes options ≠ [] then
            [⟨ascii "BUNDLE", (answerTypes options).map MediaType.mid⟩]
          else []
        transportInfos := (answerTypes options).map fun type =>
          { mid := type.mid
            iceUfrag := random.iceParam.iceUfrag
            icePwd := random.iceParam.icePwd } } := by
  have hmids : MediaType.video.mid ≠ MediaType.audio.mid := by simp [MediaType.mid, ascii]
  unfold answerDescription answerTypes addAnswerContent
  cases options.sendAudio || options.recvAudio <;> cases options.sendVideo || options.recvVideo <;>
    cases options.useRtpMux <;>
    simp [SessionDescription.addContent, SessionDescription.addTransportInfo,
      SessionDescription.addGroup, Pc.ContentGroup.addContentName, MediaContentDescription.mid,
      answerContent, audioContentDescription, videoContentDescription, hmids]

/-- A section of an answer has its type. -/
theorem answerContent_type (options : RTCOfferAnswerOptions) (streamId : Bytes)
    (random : AnswerRandom) (type : MediaType) :
    (answerContent options streamId random type).type = type := by
  cases type <;> rfl

/-- No section occurs twice. -/
theorem answerTypes_nodup (options : RTCOfferAnswerOptions) : (answerTypes options).Nodup := by
  rcases answerTypes_cases options with h | h | h | h <;> rw [h] <;> decide

/-! ### Tracks -/

/-- The tracks of streams: one for each track id, with all that is said about it. -/
def tracksOf (streams : List StreamParams) : List StreamParams :=
  (streams.map StreamParams.id).eraseDups.map fun id =>
    let same := streams.filter fun stream => stream.id = id
    { id
      cname := (same.map StreamParams.cname).headD []
      streamId := (same.map StreamParams.streamId).headD []
      ssrcs := (same.flatMap StreamParams.ssrcs).eraseDups
      ssrcGroups := same.flatMap StreamParams.ssrcGroups }

/-- The credentials of the section are read back, whatever streams follow. No line of a stream
changes them. -/
theorem readSection_td (type : MediaType) (iceParam : IceParameters) (streams : List StreamParams) :
    (readSection type iceParam streams).td
      = { mid := type.mid, iceUfrag := iceParam.iceUfrag, icePwd := iceParam.icePwd } := by
  have hfold : ∀ (block : List (Bytes × SectionEffect)) (sec : RemoteSection),
      (∀ x ∈ block, x.2.transport = .nothing) →
      (block.foldl (fun sec x => applySection sec x.2) sec).td = sec.td := by
    intro block
    induction block with
    | nil => exact fun sec _ => rfl
    | cons x block ih =>
        intro sec h
        obtain ⟨hx, hblock⟩ := List.forall_mem_cons.mp h
        rw [List.foldl_cons, ih _ hblock]
        show applyTransport sec.td x.2.transport = sec.td
        rw [hx]
        rfl
  refine hfold _ _ fun x hx => ?_
  obtain ⟨stream, -, hx⟩ := List.mem_flatMap.mp hx
  rcases List.mem_append.mp hx with hx | hx
  · obtain ⟨g, -, rfl⟩ := List.mem_map.mp hx
    rfl
  · obtain ⟨ssrc, -, hx⟩ := List.mem_flatMap.mp hx
    rcases List.mem_cons.mp hx with rfl | hx
    · rfl
    · obtain rfl := List.mem_singleton.mp hx
      rfl

/-- The streams of an answer give the tracks they are about: the media stream and its
retransmission are one track, with the group between them. -/
theorem readSection_tracks (options : RTCOfferAnswerOptions) (streamId : Bytes)
    {random : AnswerRandom} (hrandom : Drawn random) (type : MediaType) (iceParam : IceParameters) :
    (readSection type iceParam (answerContent options streamId random type).sendStreams).tracks
      = tracksOf (answerContent options streamId random type).sendStreams := by
  have hne : random.videoSsrc ≠ random.videoRtxSsrc := by
    have hssrcs := hrandom.ssrcs
    simp only [List.nodup_cons, List.mem_cons, List.not_mem_nil, or_false, not_or] at hssrcs
    exact hssrcs.2.1
  cases type with
  | audio =>
      unfold answerContent
      dsimp only
      split_ifs
      · simp [readSection, streamEffects, audioStream, applySection, Pc.setSsrcInfo, SsrcInfo.set,
          RemoteSection.tracks, createTrackFromSsrcInfo, Pc.addToTrack, tracksOf,
          List.eraseDups_cons]
      · rfl
  | video =>
      unfold answerContent
      dsimp only
      split_ifs
      · simp [readSection, streamEffects, videoStreams, applySection, Pc.setSsrcInfo, SsrcInfo.set,
          RemoteSection.tracks, createTrackFromSsrcInfo, Pc.addToTrack, tracksOf, hne, hne.symm,
          Pc.addSsrcGroup, Pc.StreamParams.hasSsrc, List.eraseDups_cons]
      · rfl

/-! ### The answer as it is read -/

/-- The BUNDLE group of an answer. -/
theorem getGroupByName_answer (options : RTCOfferAnswerOptions) (streamId : Bytes)
    (random : AnswerRandom) :
    (answerDescription options streamId random).getGroupByName (ascii "BUNDLE")
      = if options.useRtpMux = true ∧ answerTypes options ≠ [] then
          some ⟨ascii "BUNDLE", (answerTypes options).map MediaType.mid⟩
        else none := by
  rw [answerDescription_eq]
  unfold SessionDescription.getGroupByName
  dsimp only
  split_ifs
  · rw [List.find?_singleton, if_pos (decide_eq_true rfl)]
  · rfl

/-- The lines in front of the sections. -/
def preamble (d : SessionDescription) : List Bytes :=
  Pc.SessionDescription.versionLines ++ d.bundleLines ++ [ascii "a=msid-semantic: WMS"]

/-- The lines in front of the sections are those of the version, one of four BUNDLE lines or none,
and `msid-semantic`. -/
theorem preamble_cases (options : RTCOfferAnswerOptions) (streamId : Bytes)
    (random : AnswerRandom) :
    ∃ bundle ∈ [[], [ascii "a=group:BUNDLE audio"], [ascii "a=group:BUNDLE video"],
        [ascii "a=group:BUNDLE audio video"]],
      preamble (answerDescription options streamId random)
        = Pc.SessionDescription.versionLines ++ bundle ++ [ascii "a=msid-semantic: WMS"] := by
  have hbundle : ∀ types ∈ [[MediaType.audio], [.video], [.audio, .video]],
      [ascii "a=group:BUNDLE" ++ (types.map MediaType.mid).flatMap fun name => ascii " " ++ name] ∈
        [[], [ascii "a=group:BUNDLE audio"], [ascii "a=group:BUNDLE video"],
          [ascii "a=group:BUNDLE audio video"]] := by
    decide +kernel
  refine ⟨_, ?_, rfl⟩
  unfold SessionDescription.bundleLines
  rw [getGroupByName_answer]
  split_ifs with h
  · dsimp only
    rw [if_neg (by simpa using h.2)]
    refine hbundle _ ?_
    rcases answerTypes_cases options with htypes | htypes | htypes | htypes
    · exact absurd htypes h.2
    all_goals simp [htypes]
  · exact List.mem_cons_self

/-- None of them has an effect on the server. It looks for `m=group:BUNDLE`, and the BUNDLE line
starts with `a=`. -/
theorem preamble_inert (options : RTCOfferAnswerOptions) (streamId : Bytes)
    (random : AnswerRandom) :
    ∀ line ∈ preamble (answerDescription options streamId random), Inert line ∧ lf ∉ line := by
  obtain ⟨bundle, hbundle, heq⟩ := preamble_cases options streamId random
  have hall : ∀ bundle ∈ [[], [ascii "a=group:BUNDLE audio"], [ascii "a=group:BUNDLE video"],
      [ascii "a=group:BUNDLE audio video"]],
      ∀ line ∈ Pc.SessionDescription.versionLines ++ bundle ++ [ascii "a=msid-semantic: WMS"],
        Inert line ∧ lf ∉ line := by
    decide +kernel
  rw [heq]
  exact hall bundle hbundle

/-- What an answer says about its streams can be read back: the names are drawn, and the ids have
no blank. -/
theorem readable_answerContent (options : RTCOfferAnswerOptions) {streamId : Bytes}
    {random : AnswerRandom} (hstreamId : IsDigits streamId) (hrandom : Drawn random)
    (type : MediaType) :
    ∀ stream ∈ (answerContent options streamId random type).sendStreams, Readable type stream := by
  cases type with
  | audio =>
      unfold answerContent
      dsimp only
      split_ifs
      · simp only [List.forall_mem_singleton]
        exact ⟨hrandom.cname, hstreamId, hrandom.audioId, .inr rfl⟩
      · exact fun stream h => absurd h List.not_mem_nil
  | video =>
      unfold answerContent
      dsimp only
      split_ifs
      · unfold videoStreams
        simp only [List.forall_mem_cons]
        exact ⟨⟨hrandom.cname, hstreamId, hrandom.videoId, .inl rfl⟩,
          ⟨hrandom.cname, hstreamId, hrandom.videoId, .inl rfl⟩,
          fun stream h => absurd h List.not_mem_nil⟩
      · exact fun stream h => absurd h List.not_mem_nil

/-- Every section of an answer has a transport of its own with the credentials that were drawn. -/
theorem getTransportInfo_answer (options : RTCOfferAnswerOptions) (streamId : Bytes)
    (random : AnswerRandom) {type : MediaType} (h : type ∈ answerTypes options) :
    (answerDescription options streamId random).getTransportInfo type.mid
      = some
        { mid := type.mid
          iceUfrag := random.iceParam.iceUfrag
          icePwd := random.iceParam.icePwd } := by
  have hmids : MediaType.audio.mid ≠ MediaType.video.mid := by simp [MediaType.mid, ascii]
  rw [answerDescription_eq]
  unfold SessionDescription.getTransportInfo
  dsimp only
  rcases answerTypes_cases options with htypes | htypes | htypes | htypes <;>
    rw [htypes] at h ⊢ <;> cases type <;> simp_all

/-- All that the parser is shown of a section: its codecs, its transport, no candidates, and
streams that can be read back. -/
theorem answerContent_spec (options : RTCOfferAnswerOptions) {streamId : Bytes}
    {random : AnswerRandom} (hstreamId : IsDigits streamId) (hrandom : Drawn random) :
    ∀ content ∈ (answerTypes options).map (answerContent options streamId random),
      content.codecs = codecsOf content.type ∧
      (answerDescription options streamId random).getTransportInfo content.mid
        = some
          { mid := content.mid
            iceUfrag := random.iceParam.iceUfrag
            icePwd := random.iceParam.icePwd } ∧
      ∀ stream ∈ content.sendStreams, Readable content.type stream := by
  intro content hcontent
  obtain ⟨type, htype, rfl⟩ := List.mem_map.mp hcontent
  refine ⟨by cases type <;> rfl, ?_, ?_⟩
  · rw [MediaContentDescription.mid, answerContent_type]
    exact getTransportInfo_answer options streamId random htype
  · rw [answerContent_type]
    exact readable_answerContent options hstreamId hrandom type

/-- The text of an answer is taken apart into its lines. -/
theorem sdpFields_answer (options : RTCOfferAnswerOptions) {streamId : Bytes}
    {random : AnswerRandom} (hstreamId : IsDigits streamId) (hrandom : Drawn random) :
    Pc.sdpFields (answerDescription options streamId random).toString
      = (answerDescription options streamId random).lines := by
  have hspec := answerContent_spec options hstreamId hrandom
  have hcontents : (answerDescription options streamId random).contents
      = (answerTypes options).map (answerContent options streamId random) := by
    rw [answerDescription_eq]
  refine sdpFields_printLines fun line hline => ?_
  rcases List.mem_append.mp hline with hline | hline
  · exact (preamble_inert options streamId random line hline).2
  · obtain ⟨content, hcontent, hline⟩ := List.mem_flatMap.mp hline
    rw [hcontents] at hcontent
    obtain ⟨hcodecs, htd, hstreams⟩ := hspec content hcontent
    exact lf_notMem_sectionLines hcodecs htd hrandom.iceUfrag hrandom.icePwd hstreams line hline

/-- The sections of an answer, as the loop reads them. The lines in front of the first section do
nothing, and the group is in a line that the loop does not know. -/
theorem parseLines_answer (options : RTCOfferAnswerOptions) {streamId : Bytes}
    {random : AnswerRandom} (hstreamId : IsDigits streamId) (hrandom : Drawn random) :
    ∃ s, RemoteSdp.parseLines {} (answerDescription options streamId random).lines = .ok s ∧
      s.contents = answerTypes options ∧ s.contentGroups = [] ∧
      ∀ type ∈ answerTypes options, sectionAt s type = readSection type random.iceParam
        (answerContent options streamId random type).sendStreams := by
  have hcontents : (answerDescription options streamId random).contents
      = (answerTypes options).map (answerContent options streamId random) := by
    rw [answerDescription_eq]
  have htypes : ((answerTypes options).map (answerContent options streamId random)).map
      MediaContentDescription.type = answerTypes options := by
    rw [List.map_map]
    exact List.map_id'' (answerContent_type options streamId random) _
  obtain ⟨s, hparse, hnames, hgroups, -, hread⟩ :=
    parseLines_sections hrandom.iceUfrag hrandom.icePwd _
      (answerContent_spec options hstreamId hrandom) {}
      (by rw [htypes]; exact answerTypes_nodup options)
      (fun content _ => by cases content.type <;> rfl)
  rw [htypes] at hnames
  refine ⟨s, ?_, hnames, hgroups, fun type htype => ?_⟩
  · show RemoteSdp.parseLines {} (preamble _ ++ _) = _
    rw [parseLines_inert fun line hline => (preamble_inert options streamId random line hline).1,
      hcontents, hparse]
  · have h := hread _ (List.mem_map.mpr ⟨type, htype, rfl⟩)
    rwa [answerContent_type] at h

/-- An answer is found again in what was read. -/
structure AnswerRecovered (d : SessionDescription) (r : Pc.SessionDescription) : Prop where
  sections : r.contents.map Pc.MediaContentDescription.mid
    = d.contents.map MediaContentDescription.mid
  bundleNames : r.contentGroups.map Pc.ContentGroup.contentNames
    = d.contentGroups.map Pc.ContentGroup.contentNames
  isBundle : ∀ mid, r.isBundle mid = d.isBundle mid
  firstBundle : r.getFirstBundleMid = d.getFirstBundleId
  credentials : ∀ td ∈ d.transportInfos, ∃ td', r.getTransportInfo td.mid = some td' ∧
    td'.iceUfrag = td.iceUfrag ∧ td'.icePwd = td.icePwd
  tracks : r.contents.map Pc.MediaContentDescription.sendStreams
    = d.contents.map fun content => tracksOf content.sendStreams

/-- All that an answer says is found again, but for its group: sections, tracks, and the
credentials of the transports. -/
theorem answer_read (options : RTCOfferAnswerOptions) {streamId : Bytes} {random : AnswerRandom}
    (hstreamId : IsDigits streamId) (hrandom : Drawn random) {s : RemoteSdp}
    (hs : RemoteSdp.parseLines {} (answerDescription options streamId random).lines = .ok s) :
    s.description.contentGroups = [] ∧
      s.description.contents.map Pc.MediaContentDescription.mid
        = (answerDescription options streamId random).contents.map MediaContentDescription.mid ∧
      (∀ td ∈ (answerDescription options streamId random).transportInfos,
        ∃ td', s.description.getTransportInfo td.mid = some td' ∧ td'.iceUfrag = td.iceUfrag ∧
          td'.icePwd = td.icePwd) ∧
      s.description.contents.map Pc.MediaContentDescription.sendStreams
        = (answerDescription options streamId random).contents.map
          fun content => tracksOf content.sendStreams := by
  obtain ⟨s', hparse, hcontents, hgroups, hread⟩ := parseLines_answer options hstreamId hrandom
  -- the sections were read as `readSection` says
  cases hs.symm.trans hparse
  have hnamed : Named s := (parseLines_spec _ hs).2.2.2 fun type => by cases type <;> rfl
  refine ⟨hgroups, ?_, fun td htd => ?_, ?_⟩
  · rw [mids_description, hcontents, answerDescription_eq, List.map_map]
    refine List.map_congr_left fun type _ => ?_
    rw [Function.comp_apply, MediaContentDescription.mid, answerContent_type]
  · rw [answerDescription_eq] at htd
    obtain ⟨type, htype, rfl⟩ := List.mem_map.mp htd
    refine ⟨_, getTransportInfo_description hnamed (hcontents ▸ htype), ?_⟩
    rw [hread type htype, readSection_td]
    exact ⟨rfl, rfl⟩
  · show (s.contents.map _).map _ = _
    rw [List.map_map, hcontents, answerDescription_eq, List.map_map]
    refine List.map_congr_left fun type htype => ?_
    have htracks : (sectionAt s type).tracks
        = tracksOf (answerContent options streamId random type).sendStreams := by
      rw [hread type htype, readSection_tracks options streamId hrandom]
    cases type <;> exact htracks

/-- An answer has no media. -/
def NoMedia (options : RTCOfferAnswerOptions) : Prop :=
  options.sendAudio = false ∧ options.recvAudio = false ∧ options.sendVideo = false ∧
    options.recvVideo = false

/-- An answer has no section exactly when no medium is asked for in either direction. -/
theorem answerTypes_eq_nil_iff (options : RTCOfferAnswerOptions) :
    answerTypes options = [] ↔ NoMedia options := by
  unfold answerTypes NoMedia
  cases options.sendAudio <;> cases options.recvAudio <;> cases options.sendVideo <;>
    cases options.recvVideo <;> simp

/-- The group of an answer is not found again. -/
theorem no_group_of_recovered (options : RTCOfferAnswerOptions) {streamId : Bytes}
    {random : AnswerRandom} (hstreamId : IsDigits streamId) (hrandom : Drawn random)
    {s : RemoteSdp}
    (hs : RemoteSdp.parseLines {} (Pc.sdpFields (answerDescription options streamId random).toString)
      = .ok s)
    (hrecovered : AnswerRecovered (answerDescription options streamId random) s.description) :
    ¬ (options.useRtpMux = true ∧ answerTypes options ≠ []) := by
  intro hgroup
  rw [sdpFields_answer options hstreamId hrandom] at hs
  have hnames := hrecovered.bundleNames
  rw [(answer_read options hstreamId hrandom hs).1, answerDescription_eq, if_pos hgroup] at hnames
  cases hnames

/-- The server recovers the text of an answer exactly if the answer has no BUNDLE group. It parses
every answer, but looks for the group in a line that no writer makes, so a group that was there is
missing from what it has read. -/
theorem answer_recovered_iff (pc : Signaling) (options : RTCOfferAnswerOptions) (streamId : Bytes)
    (random : AnswerRandom) (hstreamId : IsDigits streamId) (hrandom : Drawn random) :
    (∃ s, RemoteSdp.parseLines {} (Pc.sdpFields (pc.createAnswer options streamId random).1) = .ok s ∧
      AnswerRecovered (answerDescription options streamId random) s.description) ↔
      options.useRtpMux = false ∨ NoMedia options := by
  rw [← answerTypes_eq_nil_iff]
  constructor
  · rintro ⟨s, hs, hrecovered⟩
    have hgroup := no_group_of_recovered options hstreamId hrandom hs hrecovered
    by_contra hcontra
    rw [not_or, Bool.not_eq_false] at hcontra
    exact hgroup hcontra
  · intro h
    have hfields : Pc.sdpFields (pc.createAnswer options streamId random).1
        = (answerDescription options streamId random).lines :=
      sdpFields_answer options hstreamId hrandom
    rw [hfields]
    obtain ⟨s, hs, -⟩ := parseLines_answer options hstreamId hrandom
    obtain ⟨hgroups, hsections, hcredentials, htracks⟩ := answer_read options hstreamId hrandom hs
    -- without a group there is nothing that is lost
    have hnone : ¬ (options.useRtpMux = true ∧ answerTypes options ≠ []) := by
      rintro ⟨hmux, htypes⟩
      rcases h with h | h
      · rw [h] at hmux
        cases hmux
      · exact htypes h
    have hgroup := getGroupByName_answer options streamId random
    rw [if_neg hnone] at hgroup
    refine ⟨s, hs, hsections, ?_, fun mid => ?_, ?_, hcredentials, htracks⟩
    · rw [hgroups, answerDescription_eq, if_neg hnone]
    · unfold Pc.SessionDescription.isBundle Pc.SessionDescription.getGroupByName
        SessionDescription.isBundle
      rw [hgroups, hgroup]
      rfl
    · unfold Pc.SessionDescription.getFirstBundleMid Pc.SessionDescription.getGroupByName
        SessionDescription.getFirstBundleId
      rw [hgroups, hgroup]
      rfl

/-- Values that an answer can be made with. -/
def drawn : AnswerRandom where
  iceParam := ⟨ascii "aB3+", ascii "0123456789abcdefghijkl/+"⟩
  cname := ascii "CnameCnameCname0"
  audioId := ascii "AudioAudioAudio0"
  audioSsrc := 1
  videoId := ascii "VideoVideoVideo0"
  videoSsrc := 2
  videoRtxSsrc := 3

/-- The texts of the example are ones that can be drawn. -/
theorem drawn_spec : Drawn drawn := by
  constructor <;> simp [drawn, IsRandomString, kBase64, ascii]

/-- The id of its stream is a number. -/
theorem isDigits_one : IsDigits (ascii "1") := by
  simp [IsDigits, isDigit, ascii]

/-- Without a bundle the answer is recovered. -/
theorem unbundled_recovered :
    ∃ s, RemoteSdp.parseLines {}
        (Pc.sdpFields (({} : Signaling).createAnswer { useRtpMux := false } (ascii "1") drawn).1)
        = .ok s ∧
      AnswerRecovered (answerDescription { useRtpMux := false } (ascii "1") drawn) s.description :=
  (answer_recovered_iff {} { useRtpMux := false } (ascii "1") drawn isDigits_one drawn_spec).mpr
    (.inl rfl)

/-- With the default options it is not. -/
theorem default_notRecovered :
    IsDigits (ascii "1") ∧ Drawn drawn ∧
      ¬ ∃ s, RemoteSdp.parseLines {}
          (Pc.sdpFields (({} : Signaling).createAnswer {} (ascii "1") drawn).1) = .ok s ∧
        AnswerRecovered (answerDescription {} (ascii "1") drawn) s.description := by
  refine ⟨isDigits_one, drawn_spec, ?_⟩
  rintro ⟨s, hs, hrecovered⟩
  refine no_group_of_recovered {} isDigits_one drawn_spec hs hrecovered ⟨rfl, ?_⟩
  decide

end Xrtc.Proofs.Sdk
