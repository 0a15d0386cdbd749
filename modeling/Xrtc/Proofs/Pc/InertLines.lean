import Xrtc.Proofs.Pc.AttributeLines
import Xrtc.Proofs.Pc.SetRemoteSdp

/-!
# `Xrtc.Proofs.Pc.InertLines`: lines that change nothing

`set_remote_sdp` looks for its keys anywhere in a line. So an attribute that it does not
interpret (`Uninterpreted`) has no effect only if none of the keys is in its value either
(`Inert`). `noEffect_iff` is the exact condition: an inert line can be inserted anywhere in
any text that has a line, and for every other line there is a text where it shows.

For the second half each kind of line has a text of its own. A group or a section shows
behind a version line, what belongs to a section shows behind the `m=` line of the section,
and a group of ssrcs shows behind a line about its first ssrc, as it goes to the track of
that ssrc.
-/

set_option autoImplicit false

namespace Xrtc.Proofs.Pc

open Xrtc.Base
open Xrtc.Lib
open Xrtc.Ice (ascii colon split)
open Xrtc.Pc
open Xrtc.Proofs.Base

/-! ### Texts with one line more -/

/-- A line without its end. -/
def IsLine (line : Bytes) : Prop := cr ∉ line ∧ lf ∉ line

/-- The names that mean something to the parser. -/
def interpretedNames : List Bytes :=
  [ascii "ice-ufrag", ascii "ice-pwd", ascii "fingerprint", ascii "ssrc", ascii "ssrc-group",
    ascii "group"]

/-- An attribute with another name. -/
def Uninterpreted (line : Bytes) : Prop :=
  IsLine line ∧ ∃ name value, name ∉ interpretedNames ∧ colon ∉ name ∧
    (line = ascii "a=" ++ name ∨ line = ascii "a=" ++ name ++ colon :: value)

/-- The return value and the description, if the call returns. -/
def observed : SetRemoteSdp → Option (Int × Option SessionDescription)
  | .returns ret pc => some (ret, pc.remoteDesc)
  | .outOfRange => none
  | .nullPointer => none

/-- On every connection the text gives the same with the line and without it. -/
def NoEffect (line : Bytes) (before after : List Bytes) : Prop :=
  ∀ (ssl : SslAdapter) (pc : PeerConnection),
    observed (pc.setRemoteSdp ssl (printLines (before ++ line :: after)))
      = observed (pc.setRemoteSdp ssl (printLines (before ++ after)))

/-- The keys of the lines of a section. -/
def sectionKeys : List Bytes :=
  [ascii "a=ice-ufrag", ascii "a=ice-pwd", ascii "a=fingerprint", ascii "a=ssrc:",
    ascii "a=ssrc-group:"]

/-- No key is in the line, unless it is that of a group without names. -/
def Inert (line : Bytes) : Prop :=
  (if ascii "m=group:BUNDLE" <:+: line then space ∉ line else ¬ ascii "m=" <:+: line) ∧
    ∀ key ∈ sectionKeys, ¬ key <:+: line

instance (line : Bytes) : Decidable (Inert line) := inferInstanceAs (Decidable (_ ∧ _))

/-! ### Inert lines -/

/-- A line that is taken for no group and for no section does nothing in the first part of the
loop body. A BUNDLE line without a blank names nobody. -/
theorem mediaEffect_of_noMedia {line : Bytes}
    (h : if ascii "m=group:BUNDLE" <:+: line then space ∉ line else ¬ ascii "m=" <:+: line) :
    mediaEffect line = .ok .nothing := by
  unfold mediaEffect
  by_cases hgroup : ascii "m=group:BUNDLE" <:+: line
  · rw [if_pos hgroup] at h
    rw [if_pos (contains_iff.mpr hgroup), split_of_not_mem line h, List.nil_append]
  · rw [if_neg hgroup] at h
    rw [if_neg (fun hc => hgroup (contains_iff.mp hc)), if_neg (fun hc => h (contains_iff.mp hc))]

/-- A line without any of the four keys does nothing in a section of either type. -/
theorem sectionEffect_of_noKey {line : Bytes} (h : ∀ key ∈ sectionKeys, ¬ key <:+: line)
    (type : MediaType) : sectionEffect type line = .ok {} := by
  have hkey : ∀ key ∈ sectionKeys, ¬ contains key line = true :=
    fun key hmem hc => h key hmem (contains_iff.mp hc)
  have htransport : transportEffect line = .ok .nothing := by
    unfold transportEffect
    rw [if_neg (hkey _ (by simp [sectionKeys])), if_neg (hkey _ (by simp [sectionKeys])),
      if_neg (hkey _ (by simp [sectionKeys]))]
  have hgroup : videoGroupEffect type line = .ok none := by
    refine videoGroupEffect_of_none ?_
    unfold ssrcGroupEffect
    rw [if_neg (hkey _ (by simp [sectionKeys]))]
  have hssrc : ssrcEffect line = .ok none := by
    unfold ssrcEffect
    rw [if_neg (hkey _ (by simp [sectionKeys]))]
  unfold sectionEffect
  rw [htransport, hgroup, hssrc]
  rfl

/-- Doing nothing to a section leaves it as it is. -/
theorem applySection_default (sec : RemoteSection) : applySection sec {} = sec := by
  show ({ td := sec.td, ssrcInfo := sec.ssrcInfo, ssrcGroups := sec.ssrcGroups ++ [] }
    : RemoteSection) = sec
  rw [List.append_nil]

/-- An inert line leaves the local objects as they are. -/
theorem lineEffect_of_inert {line : Bytes} (h : Inert line) (mediaType : Bytes) :
    ∃ e, lineEffect mediaType line = .ok e ∧ ∀ s, applyLine s e = s := by
  unfold lineEffect
  rw [mediaEffect_of_noMedia h.1]
  dsimp only [bind, Except.bind, afterMedia]
  cases sectionType mediaType with
  | none => exact ⟨{}, rfl, fun s => rfl⟩
  | some type =>
      dsimp only
      rw [sectionEffect_of_noKey h.2]
      refine ⟨{ current := some (type, {}) }, rfl, fun s => ?_⟩
      show setSection s type (applySection (sectionAt s type) {}) = s
      rw [applySection_default]
      cases type <;> rfl

/-- An inert line can be put between any other lines. The induction is on the lines before it,
since each of them may end the parsing. -/
theorem parseLines_insert {line : Bytes} (h : Inert line) (before after : List Bytes) :
    ∀ s : RemoteSdp, s.parseLines (before ++ line :: after) = s.parseLines (before ++ after) := by
  induction before with
  | nil =>
      intro s
      obtain ⟨e, he, hs⟩ := lineEffect_of_inert h s.mediaType
      rw [List.nil_append, parseLines_of_ok he, hs]
      rfl
  | cons field before ih =>
      intro s
      simp only [List.cons_append, RemoteSdp.parseLines, ih]

/-- For a text: an inert line changes neither the return value nor the description. Both texts
split into the same lines but for this one, and there is a line besides it. -/
theorem noEffect_of_inert {line : Bytes} (hinert : Inert line) (hline : IsLine line)
    {before after : List Bytes} (hlines : ∀ l ∈ before ++ after, IsLine l)
    (hne : before ++ after ≠ []) : NoEffect line before after := by
  intro ssl pc
  have hlf : ∀ l ∈ before ++ after, lf ∉ l := fun l hl => (hlines l hl).2
  have hlf' : ∀ l ∈ before ++ line :: after, lf ∉ l := by
    intro l hl
    rcases List.mem_append.mp hl with hl | hl
    · exact hlf l (List.mem_append_left _ hl)
    · rcases List.mem_cons.mp hl with rfl | hl
      · exact hline.2
      · exact hlf l (List.mem_append_right _ hl)
  unfold PeerConnection.setRemoteSdp
  rw [sdpFields_printLines hlf, sdpFields_printLines hlf', if_neg hne, if_neg (by simp),
    parseLines_insert hinert]

/-- What comes behind lines that are parsed. -/
theorem parseLines_append {before : List Bytes} :
    ∀ {s s' : RemoteSdp}, s.parseLines before = .ok s' →
      ∀ after, s.parseLines (before ++ after) = s'.parseLines after := by
  induction before with
  | nil =>
      intro s s' h after
      cases h
      rfl
  | cons line before ih =>
      intro s s' h after
      cases he : lineEffect s.mediaType line with
      | error failure =>
          obtain ⟨media, hs⟩ := parseLines_of_error he before
          rw [hs] at h
          cases h
      | ok e =>
          rw [parseLines_of_ok he] at h
          rw [List.cons_append, parseLines_of_ok he, ih h]

/-! ### What a new connection parses -/

/-- What a connection without transports makes of the lines. -/
def parsed (lines : List Bytes) : Option (Int × SessionDescription) :=
  match RemoteSdp.parseLines {} lines with
  | .error (.outOfRange, _) => none
  | .error (.rejected, s) => some (-1, s.partialDescription)
  | .ok s => some (0, s.description)

/-- What can be observed of a call on a new connection is what its lines are parsed to. The
transports of a new connection do not stand in the way. -/
theorem observed_setRemoteSdp (ssl : SslAdapter) {sdp : Bytes} (hne : sdpFields sdp ≠ []) :
    observed (({} : PeerConnection).setRemoteSdp ssl sdp)
      = (parsed (sdpFields sdp)).map fun r => (r.1, some r.2) := by
  unfold PeerConnection.setRemoteSdp parsed
  rw [if_neg hne]
  rcases RemoteSdp.parseLines {} (sdpFields sdp) with ⟨_ | _, s⟩ | s
  · rfl
  · rfl
  · have hsome : (({} : TransportController).setRemoteDescription ssl s.description).isSome :=
      (setRemoteDescription_isSome_iff ssl s.description _ _).mpr fun content _ hmem =>
        absurd hmem List.not_mem_nil
    obtain ⟨c, hc⟩ := Option.isSome_iff_exists.mp hsome
    dsimp only
    rw [hc]
    rfl

/-- The same for a text that is printed from its lines. -/
theorem observed_newConnection (ssl : SslAdapter) {lines : List Bytes}
    (hlf : ∀ l ∈ lines, lf ∉ l) (hne : lines ≠ []) :
    observed (({} : PeerConnection).setRemoteSdp ssl (printLines lines))
      = (parsed lines).map fun r => (r.1, some r.2) := by
  have hfields := sdpFields_printLines hlf
  rw [observed_setRemoteSdp ssl (hfields.symm ▸ hne), hfields]

/-- So a line has an effect where the lines with it are parsed to something else than those
without it. -/
theorem not_noEffect {line : Bytes} {before after : List Bytes}
    (hlf : ∀ l ∈ before ++ line :: after, lf ∉ l) (hne : before ++ after ≠ [])
    (h : parsed (before ++ line :: after) ≠ parsed (before ++ after)) :
    ¬ NoEffect line before after := by
  intro hno
  have hlf' : ∀ l ∈ before ++ after, lf ∉ l := by
    intro l hl
    refine hlf l ?_
    rcases List.mem_append.mp hl with hl | hl
    · exact List.mem_append_left _ hl
    · exact List.mem_append_right _ (List.mem_cons_of_mem _ hl)
  have heq := hno quietAdapter {}
  rw [observed_newConnection quietAdapter hlf (by simp),
    observed_newConnection quietAdapter hlf' hne] at heq
  refine h (Option.map_injective ?_ heq)
  intro r r' hr
  simpa [Prod.ext_iff] using hr

/-- A last line that fails shows. -/
theorem parsed_ne_of_error {before : List Bytes} {s : RemoteSdp} {line : Bytes} {failure : Failure}
    (hbefore : RemoteSdp.parseLines {} before = .ok s)
    (h : lineEffect s.mediaType line = .error failure) :
    parsed (before ++ line :: []) ≠ parsed (before ++ []) := by
  unfold parsed
  obtain ⟨media, hs⟩ := parseLines_of_error h []
  rw [List.append_nil, hbefore, parseLines_append hbefore, hs]
  cases failure <;> simp

/-- A last line shows unless its effect leaves the description as it is. -/
theorem parsed_ne_of_last {before : List Bytes} {s : RemoteSdp} {line : Bytes}
    (hbefore : RemoteSdp.parseLines {} before = .ok s)
    (h : ∀ e, lineEffect s.mediaType line = .ok e → (applyLine s e).description ≠ s.description) :
    parsed (before ++ line :: []) ≠ parsed (before ++ []) := by
  cases he : lineEffect s.mediaType line with
  | error failure => exact parsed_ne_of_error hbefore he
  | ok e =>
      unfold parsed
      rw [List.append_nil, hbefore, parseLines_append hbefore, parseLines_of_ok he]
      show some ((0 : Int), (applyLine s e).description) ≠ some (0, s.description)
      simpa using h e he

/-! ### Lines that show -/

section Shows

variable {line : Bytes}

/-- The version line, which has no effect. -/
theorem parseLines_version : RemoteSdp.parseLines {} [ascii "v=0"] = .ok {} := by decide +kernel

/-- The `m=` line of a section. -/
def opening (type : MediaType) : Bytes := ascii "m=" ++ type.mid ++ ascii " 9 X"

/-- A single `m=` line enters its section. -/
theorem parseLines_opening (type : MediaType) :
    RemoteSdp.parseLines {} [opening type] = .ok (RemoteSdp.enter {} type.mid) := by
  cases type <;> decide +kernel

/-- `v=0` is a line. -/
theorem isLine_version : IsLine (ascii "v=0") := by simp [IsLine, ascii, cr, lf]

/-- So is the `m=` line of a section. -/
theorem isLine_opening (type : MediaType) : IsLine (opening type) := by
  cases type <;> simp [IsLine, opening, MediaType.mid, ascii, cr, lf]

/-- A group of names. -/
theorem shows_of_bundle (hline : IsLine line) (hgroup : ascii "m=group:BUNDLE" <:+: line)
    (hspace : space ∈ line) : ¬ NoEffect line [ascii "v=0"] [] := by
  have hbundle : ∃ g, bundleOf line = some g := by
    obtain ⟨item, rest, hsplit, hitem⟩ := List.eq_append_cons_of_mem hspace
    obtain ⟨name, names, hnames⟩ := List.exists_cons_of_ne_nil (split_ne_nil space rest [])
    unfold bundleOf
    rw [if_pos hgroup, hsplit, split_append item rest hitem, hnames]
    exact ⟨_, rfl⟩
  obtain ⟨g, hg⟩ := hbundle
  refine not_noEffect (by simpa using ⟨isLine_version.2, hline.2⟩) (by simp)
    (parsed_ne_of_last parseLines_version fun e he heq => ?_)
  have hgroups := (applyLine_spec he).2.1
  rw [hg] at hgroups
  have hsame : (applyLine {} e).contentGroups = [] :=
    congrArg SessionDescription.contentGroups heq
  rw [hgroups] at hsame
  cases hsame

/-- A section that is one of the two. -/
theorem shows_of_section (hline : IsLine line) {type : MediaType}
    (hsection : namedSection line = some type) : ¬ NoEffect line [ascii "v=0"] [] := by
  refine not_noEffect (by simpa using ⟨isLine_version.2, hline.2⟩) (by simp)
    (parsed_ne_of_last parseLines_version fun e he heq => ?_)
  have hcontents := (applyLine_spec he).1
  rw [hsection] at hcontents
  have hsame := congrArg (fun d => (SessionDescription.contents d).length) heq
  simp [RemoteSdp.description, hcontents] at hsame

/-- A line of the audio section. -/
def audioUfrag : Bytes := ascii "a=ice-ufrag:x"

/-- So is the line with the user name. -/
theorem isLine_audioUfrag : IsLine audioUfrag := by simp [IsLine, audioUfrag, ascii, cr, lf]

/-- The local objects when the audio section has it. -/
def withAudioUfrag : RemoteSdp :=
  { RemoteSdp.enter {} MediaType.audio.mid with
      audio := { td := { mid := MediaType.audio.mid, iceUfrag := ascii "x" } } }

/-- The user name goes to the section in front of it. -/
theorem parseLines_audioUfrag :
    RemoteSdp.parseLines {} [opening .audio, audioUfrag] = .ok withAudioUfrag := by
  decide +kernel

/-- The transport of the section is different with it and without it. -/
theorem audioUfrag_ne :
    (RemoteSdp.enter {} MediaType.audio.mid).audio.td ≠ withAudioUfrag.audio.td := by
  decide +kernel

/-- The line with the user name begins no section and names no group. -/
theorem mediaEffect_audioUfrag : mediaEffect audioUfrag = .ok .nothing := by decide +kernel

/-- An `m=` line of another type only changes the name of the current section, so that the lines
behind it belong to no section. -/
theorem applyLine_of_unknownSection {s : RemoteSdp} {e : LineEffect} (hmedia : IsMedia line)
    (hsection : namedSection line = none) (he : lineEffect s.mediaType line = .ok e) :
    applyLine s e = { s with mediaType := (firstField line).drop 2 } := by
  unfold namedSection at hsection
  rw [if_pos hmedia] at hsection
  obtain ⟨media, hok, h⟩ := bind_eq_ok.mp he
  rw [mediaEffect_of_isMedia hmedia] at hok
  split_ifs at hok
  cases hok
  dsimp only [afterMedia] at h
  rw [hsection] at h
  cases h
  show s.enter _ = _
  rw [enter_eq, hsection]

/-- An `m=` line that starts no section ends the one before, of which there is more. -/
theorem parsed_ne_of_unknownSection {first second : Bytes} {s s' : RemoteSdp}
    (hmedia : IsMedia line) (hsection : namedSection line = none)
    (hfirst : RemoteSdp.parseLines {} [first] = .ok s)
    (hboth : RemoteSdp.parseLines {} [first, second] = .ok s') (hne : s.audio.td ≠ s'.audio.td)
    (hsecond : mediaEffect second = .ok .nothing) :
    parsed ([first] ++ line :: [second]) ≠ parsed ([first] ++ [second]) := by
  have hsection' := hsection
  unfold namedSection at hsection'
  rw [if_pos hmedia] at hsection'
  unfold parsed
  rw [parseLines_append hfirst, List.singleton_append, hboth]
  cases he : lineEffect s.mediaType line with
  | error failure =>
      obtain ⟨media, hs⟩ := parseLines_of_error he [second]
      rw [hs]
      cases failure <;> simp
  | ok e =>
      have he' : lineEffect ((firstField line).drop 2) second = .ok {} := by
        unfold lineEffect
        rw [hsecond]
        dsimp only [bind, Except.bind, afterMedia]
        rw [hsection']
        rfl
      rw [parseLines_of_ok he, applyLine_of_unknownSection hmedia hsection he,
        parseLines_of_ok he', RemoteSdp.parseLines]
      intro heq
      simp only [Option.some.injEq, Prod.mk.injEq, true_and] at heq
      exact hne (List.head_eq_of_cons_eq (congrArg SessionDescription.transportInfos heq))

/-- Such a line shows: the user name behind it goes to no section any more. -/
theorem shows_of_unknownSection (hline : IsLine line) (hmedia : IsMedia line)
    (hsection : namedSection line = none) : ¬ NoEffect line [opening .audio] [audioUfrag] :=
  not_noEffect (by simpa using ⟨(isLine_opening .audio).2, hline.2, isLine_audioUfrag.2⟩)
    (by simp) (parsed_ne_of_unknownSection hmedia hsection (parseLines_opening .audio)
      parseLines_audioUfrag audioUfrag_ne mediaEffect_audioUfrag)

/-- The effect of a line that is in a section and neither a group nor a section. -/
theorem lineEffect_of_nothing {type : MediaType} {e : LineEffect}
    (hmedia : mediaEffect line = .ok .nothing) (he : lineEffect type.mid line = .ok e) :
    ∃ t g r, transportEffect line = .ok t ∧ videoGroupEffect type line = .ok g ∧
      ssrcEffect line = .ok r ∧
      e = { current := some (type, { transport := t, group := g, ssrc := r }) } := by
  unfold lineEffect at he
  rw [hmedia] at he
  dsimp only [bind, Except.bind, afterMedia] at he
  rw [sectionType_mid] at he
  obtain ⟨e', hsection, he⟩ := bind_eq_ok.mp he
  obtain ⟨t, ht, hsection⟩ := bind_eq_ok.mp hsection
  obtain ⟨g, hg, hsection⟩ := bind_eq_ok.mp hsection
  obtain ⟨r, hr, hsection⟩ := bind_eq_ok.mp hsection
  cases hsection
  cases he
  exact ⟨t, g, r, ht, hg, hr, rfl⟩

/-- A key of the transport gives it a value: an accepted line with one of the three keys changes a
transport that has nothing yet. -/
theorem applyTransport_ne {t : TransportEffect} {td : TransportDescription}
    (hufrag : td.iceUfrag = []) (hpwd : td.icePwd = []) (hfp : td.identityFingerprint = none)
    (hkey : ascii "a=ice-ufrag" <:+: line ∨ ascii "a=ice-pwd" <:+: line ∨
      ascii "a=fingerprint" <:+: line)
    (h : transportEffect line = .ok t) : applyTransport td t ≠ td := by
  have hvalue : ∀ {value : Bytes} {f : Bytes → TransportEffect},
      (nonEmpty value).map f = .ok t → value ≠ [] ∧ t = f value := by
    intro value f h
    unfold nonEmpty at h
    split at h
    · cases h
    · cases h
      exact ⟨‹_›, rfl⟩
  unfold transportEffect at h
  -- one case for each key, and the empty transport has none of the values
  split_ifs at h with h1 h2 h3
  · obtain ⟨hne, rfl⟩ := hvalue h
    exact fun heq => hne ((congrArg TransportDescription.iceUfrag heq).trans hufrag)
  · obtain ⟨hne, rfl⟩ := hvalue h
    exact fun heq => hne ((congrArg TransportDescription.icePwd heq).trans hpwd)
  · revert h
    rcases tokenize space [] line with _ | ⟨item, _ | ⟨content, _ | _⟩⟩ <;> intro h
    case cons.cons.nil =>
      obtain ⟨alg, -, h⟩ := bind_eq_ok.mp h
      obtain ⟨fp, -, h⟩ := bind_eq_ok.mp h
      cases h
      intro heq
      have hsome := (congrArg TransportDescription.identityFingerprint heq).trans hfp
      cases hsome
    all_goals cases h
  · rw [contains_iff] at h1 h2 h3
    exact absurd hkey (not_or.mpr ⟨h1, not_or.mpr ⟨h2, h3⟩⟩)

/-- The streams of the one section of a description are its tracks. -/
theorem tracks_eq_of_description {s s' : RemoteSdp} {type : MediaType}
    (hcontents : s.contents = [type]) (hcontents' : s'.contents = [type])
    (h : s'.description = s.description) :
    (sectionAt s' type).tracks = (sectionAt s type).tracks := by
  have hstreams : ∀ s : RemoteSdp, s.contents = [type] →
      s.description.contents.map MediaContentDescription.sendStreams
        = [(sectionAt s type).tracks] := by
    intro s hs
    show (s.contents.map _).map _ = _
    rw [hs]
    cases type <;> rfl
  have heq := hstreams s' hcontents'
  rw [h, hstreams s hcontents] at heq
  exact (List.head_eq_of_cons_eq heq).symm

/-- The groups give ssrcs to the tracks that are there, so there are as many tracks as without
them. -/
theorem tracks_length (sec : RemoteSection) :
    sec.tracks.length = (createTrackFromSsrcInfo sec.ssrcInfo).length := by
  have hlength : ∀ (groups : List SsrcGroup) (tracks : List StreamParams),
      (groups.foldl addSsrcGroup tracks).length = tracks.length := by
    intro groups
    induction groups with
    | nil => exact fun tracks => rfl
    | cons group groups ih =>
        intro tracks
        rw [List.foldl_cons, ih]
        unfold addSsrcGroup
        split
        · rfl
        · exact List.length_map _
  exact hlength _ _

/-- A line that only speaks to a section changes this section. -/
theorem applyLine_section (s : RemoteSdp) (type : MediaType) (e : SectionEffect) :
    applyLine s { current := some (type, e) }
      = setSection s type (applySection (sectionAt s type) e) :=
  rfl

/-- In a section that has nothing yet, a line of the transport and one of an ssrc show. -/
theorem description_ne_of_section {type : MediaType} {s : RemoteSdp} {e : LineEffect}
    (hcontents : s.contents = [type]) (hsection : sectionAt s type = { td := { mid := type.mid } })
    (hmedia : mediaEffect line = .ok .nothing)
    (hkey : ascii "a=ice-ufrag" <:+: line ∨ ascii "a=ice-pwd" <:+: line ∨
      ascii "a=fingerprint" <:+: line ∨ ascii "a=ssrc:" <:+: line)
    (he : lineEffect type.mid line = .ok e) : (applyLine s e).description ≠ s.description := by
  obtain ⟨t, g, r, ht, -, hr, rfl⟩ := lineEffect_of_nothing hmedia he
  intro heq
  have htds := congrArg SessionDescription.transportInfos heq
  have hstreams := tracks_eq_of_description hcontents
    (by rw [applyLine_section, setSection_contents, hcontents]) heq
  rw [applyLine_section] at htds hstreams
  -- an ssrc adds a track, and the other keys change the transport
  by_cases hssrc : ascii "a=ssrc:" <:+: line
  · obtain ⟨x, rfl⟩ : ∃ x, r = some x := by
      unfold ssrcEffect at hr
      rw [if_pos (contains_iff.mpr hssrc)] at hr
      obtain ⟨⟨id, field⟩, -, hr⟩ := bind_eq_ok.mp hr
      obtain ⟨⟨attr, value⟩, -, hr⟩ := bind_eq_ok.mp hr
      obtain ⟨a, -, hr⟩ := bind_eq_ok.mp hr
      cases hr
      exact ⟨_, rfl⟩
    have hlength := congrArg List.length hstreams
    rw [sectionAt_setSection, if_pos rfl, tracks_length, tracks_length, hsection] at hlength
    cases hlength
  · have htransport : applyTransport (sectionAt s type).td t = (sectionAt s type).td := by
      cases type with
      | audio => exact List.head_eq_of_cons_eq htds
      | video => exact List.head_eq_of_cons_eq (List.tail_eq_of_cons_eq htds)
    refine applyTransport_ne (by rw [hsection]) (by rw [hsection]) (by rw [hsection]) ?_ ht
      htransport
    rcases hkey with h | h | h | h
    · exact .inl h
    · exact .inr (.inl h)
    · exact .inr (.inr h)
    · exact absurd h hssrc

/-- A section that was just entered has the name it was entered with, and nothing else. -/
theorem enter_fresh (type : MediaType) :
    (RemoteSdp.enter {} type.mid).contents = [type] ∧
      (RemoteSdp.enter {} type.mid).mediaType = type.mid ∧
      sectionAt (RemoteSdp.enter {} type.mid) type = { td := { mid := type.mid } } := by
  rw [enter_eq, sectionType_mid]
  cases type <;> exact ⟨rfl, rfl, rfl⟩

/-- A line with one of the keys that an empty section notices shows in a text of its own: behind
the `m=` line of the section, with no line after it. -/
theorem shows_of_sectionKey (hline : IsLine line) (hmedia : mediaEffect line = .ok .nothing)
    (hkey : ascii "a=ice-ufrag" <:+: line ∨ ascii "a=ice-pwd" <:+: line ∨
      ascii "a=fingerprint" <:+: line ∨ ascii "a=ssrc:" <:+: line) :
    ¬ NoEffect line [opening .audio] [] := by
  obtain ⟨hcontents, hmediaType, hsection⟩ := enter_fresh .audio
  refine not_noEffect (by simpa using ⟨(isLine_opening .audio).2, hline.2⟩) (by simp)
    (parsed_ne_of_last (parseLines_opening .audio) fun e he => ?_)
  rw [hmediaType] at he
  exact description_ne_of_section hcontents hsection hmedia hkey he

/-! ### Groups of ssrcs -/

/-- A group that is parsed has an ssrc in it. -/
theorem parseSsrcGroup_ssrcs {g : SsrcGroup} (h : parseSsrcGroup line = some g) :
    ∃ ssrc ssrcs, g.ssrcs = ssrc :: ssrcs := by
  unfold parseSsrcGroup at h
  revert h
  rcases split space [] (line.drop 2) with _ | ⟨name, _ | ⟨ssrc, ssrcs⟩⟩ <;> intro h
  · cases h
  · cases h
  · obtain ⟨ids, hids, h⟩ := Option.bind_eq_some_iff.mp h
    rw [List.mapM_cons] at hids
    obtain ⟨id, -, hids⟩ := Option.bind_eq_some_iff.mp hids
    obtain ⟨rest, -, hids⟩ := Option.bind_eq_some_iff.mp hids
    cases hids
    split_ifs at h
    cases h
    exact ⟨id, rest, rfl⟩

/-- A line about an ssrc. -/
def cnameLine (ssrc : UInt32) : Bytes := ssrcLine ssrc (ascii "cname") (ascii "x")

/-- The number of an ssrc is printed in digits, so its `cname` line is one line. -/
theorem isLine_cnameLine (ssrc : UInt32) : IsLine (cnameLine ssrc) := by
  have hname : ascii "cname" = [0x63, 0x6e, 0x61, 0x6d, 0x65] := by simp [ascii]
  have hx : ascii "x" = [0x78] := by simp [ascii]
  have hkey : ascii "a=" = [0x61, 0x3d] := by simp [ascii]
  unfold IsLine cnameLine
  rw [ssrcLine_eq, List.mem_append, List.mem_append, not_or, not_or, hname, hx, hkey]
  exact ⟨⟨by decide, not_mem_ssrcValue (by simp [ascii, cr]) (by decide) ssrc (by decide) (by decide)⟩,
    by decide, not_mem_ssrcValue (by simp [ascii, lf]) (by decide) ssrc (by decide) (by decide)⟩

/-- The video section with the ssrc. -/
def videoSsrc (ssrc : UInt32) : RemoteSection where
  td := { mid := MediaType.video.mid }
  ssrcInfo := [{ ssrcId := ssrc, cname := ascii "x" }]

/-- The line makes one ssrc known in the video section. -/
theorem parseLines_cnameLine (ssrc : UInt32) :
    RemoteSdp.parseLines {} [opening .video, cnameLine ssrc]
      = .ok (setSection (RemoteSdp.enter {} MediaType.video.mid) .video (videoSsrc ssrc)) := by
  obtain ⟨-, hmediaType, hsection⟩ := enter_fresh .video
  have hattr : parseSsrcAttribute (ascii "cname") (ascii "x") = .ok (.cname (ascii "x")) := by
    unfold parseSsrcAttribute
    rw [if_pos rfl]
  have he := lineEffect_ssrcLine .video ssrc hattr (by simp [ascii, equals]) (by simp [ascii, colon])
    (by simp [ascii, space]) (by simp [ascii, colon])
  rw [← hmediaType] at he
  rw [← List.singleton_append, parseLines_append (parseLines_opening .video), cnameLine,
    parseLines_of_ok he, applyLine]
  show Except.ok (setSection (RemoteSdp.enter {} MediaType.video.mid) .video
    (applySection (sectionAt (RemoteSdp.enter {} MediaType.video.mid) .video) _)) = _
  rw [hsection]
  rfl

/-- The group of an ssrc shows at its track. -/
theorem tracks_ne_of_group {sec sec' : RemoteSection} {info : SsrcInfo} {g : SsrcGroup}
    {ssrcs : List UInt32} (hinfo : sec.ssrcInfo = [info]) (hgroups : sec.ssrcGroups = [])
    (hinfo' : sec'.ssrcInfo = [info]) (hgroups' : sec'.ssrcGroups = [g])
    (hg : g.ssrcs = info.ssrcId :: ssrcs) : sec'.tracks ≠ sec.tracks := by
  intro heq
  have hmap := congrArg (List.map StreamParams.ssrcGroups) heq
  unfold RemoteSection.tracks at hmap
  rw [hinfo, hinfo', hgroups, hgroups'] at hmap
  simp [createTrackFromSsrcInfo, addToTrack, addSsrcGroup, hg, StreamParams.hasSsrc] at hmap

/-- A group of that ssrc shows in the tracks of the section, whatever else the line may say about
the transport. -/
theorem description_ne_of_group {s : RemoteSdp} {info : SsrcInfo} {t : TransportEffect}
    {g : SsrcGroup} {ssrcs : List UInt32} (hcontents : s.contents = [.video])
    (hinfo : s.video.ssrcInfo = [info]) (hgroups : s.video.ssrcGroups = [])
    (hg : g.ssrcs = info.ssrcId :: ssrcs) :
    (applyLine s { current := some (.video, { transport := t, group := some g }) }).description
      ≠ s.description := by
  intro heq
  have htracks := tracks_eq_of_description hcontents
    (by rw [applyLine_section, setSection_contents, hcontents]) heq
  rw [applyLine_section, sectionAt_setSection, if_pos rfl] at htracks
  have hinfo' : (applySection (sectionAt s .video) { transport := t, group := some g }).ssrcInfo
      = [info] := hinfo
  have hgroups' : (applySection (sectionAt s .video) { transport := t, group := some g }).ssrcGroups
      = [g] := by
    show s.video.ssrcGroups ++ [g] = [g]
    rw [hgroups, List.nil_append]
  exact tracks_ne_of_group hinfo hgroups hinfo' hgroups' hg htracks

/-- So a line with a group shows in some text: one where its first ssrc has been made known. A
line that cannot be parsed as a group ends the parsing instead. -/
theorem shows_of_ssrcGroup (hline : IsLine line) (hmedia : mediaEffect line = .ok .nothing)
    (hgroup : ascii "a=ssrc-group:" <:+: line) (hssrc : ¬ ascii "a=ssrc:" <:+: line) :
    ∃ before, (∀ l ∈ before, IsLine l) ∧ before ≠ [] ∧ ¬ NoEffect line before [] := by
  obtain ⟨hcontents, hmediaType, -⟩ := enter_fresh .video
  have hvideo : ∀ {g}, videoGroupEffect .video line = .ok g → g = parseSsrcGroup line ∧ g ≠ none := by
    intro g h
    unfold videoGroupEffect ssrcGroupEffect at h
    rw [if_pos rfl, if_pos (contains_iff.mpr hgroup)] at h
    cases hparse : parseSsrcGroup line with
    | none =>
        rw [hparse] at h
        cases h
    | some g' =>
        rw [hparse] at h
        cases h
        exact ⟨rfl, by simp⟩
  have hnone : ∀ {r}, ssrcEffect line = .ok r → r = none := by
    intro r h
    unfold ssrcEffect at h
    rw [if_neg (fun hc => hssrc (contains_iff.mp hc))] at h
    cases h
    rfl
  cases hparse : parseSsrcGroup line with
  | none =>
      -- the line is rejected in the video section
      refine ⟨[opening .video], by simpa using isLine_opening .video, by simp,
        not_noEffect (by simpa using ⟨(isLine_opening .video).2, hline.2⟩) (by simp)
          (parsed_ne_of_last (parseLines_opening .video) fun e he => ?_)⟩
      rw [hmediaType] at he
      obtain ⟨t, g, r, -, hg, -, -⟩ := lineEffect_of_nothing hmedia he
      obtain ⟨heq, hne⟩ := hvideo hg
      exact absurd (heq.trans hparse) hne
  | some group =>
      obtain ⟨ssrc, ssrcs, hssrcs⟩ := parseSsrcGroup_ssrcs hparse
      refine ⟨[opening .video, cnameLine ssrc],
        by simpa using ⟨isLine_opening .video, isLine_cnameLine ssrc⟩, by simp,
        not_noEffect
          (by simpa using ⟨(isLine_opening .video).2, (isLine_cnameLine ssrc).2, hline.2⟩) (by simp)
          (parsed_ne_of_last (parseLines_cnameLine ssrc) fun e he heq => ?_)⟩
      rw [setSection_mediaType, hmediaType] at he
      obtain ⟨t, g, r, -, hg, hr, rfl⟩ := lineEffect_of_nothing hmedia he
      obtain ⟨rfl, -⟩ := hvideo hg
      obtain rfl := hnone hr
      rw [hparse] at heq
      exact description_ne_of_group (by rw [setSection_contents, hcontents]) rfl rfl hssrcs heq

end Shows

/-! ### The exact condition -/

/-- A line that is not inert shows somewhere. For each key there is a text in which the line has
its effect, or in which it is rejected. -/
theorem inert_of_noEffect {line : Bytes} (hline : IsLine line)
    (h : ∀ before after, (∀ l ∈ before ++ after, IsLine l) → before ++ after ≠ [] →
      NoEffect line before after) : Inert line := by
  -- three texts in which a line that is not inert shows itself
  have hversion : NoEffect line [ascii "v=0"] [] :=
    h _ _ (by simpa using isLine_version) (by simp)
  have haudio : NoEffect line [opening .audio] [] :=
    h _ _ (by simpa using isLine_opening .audio) (by simp)
  have hufrag : NoEffect line [opening .audio] [audioUfrag] :=
    h _ _ (by simpa using ⟨isLine_opening .audio, isLine_audioUfrag⟩) (by simp)
  have hnoMedia : if ascii "m=group:BUNDLE" <:+: line then space ∉ line
      else ¬ ascii "m=" <:+: line := by
    split
    · rename_i hgroup
      exact fun hspace => shows_of_bundle hline hgroup hspace hversion
    · rename_i hgroup
      intro hm
      have hmedia : IsMedia line := ⟨hm, hgroup⟩
      cases hsection : namedSection line with
      | none => exact shows_of_unknownSection hline hmedia hsection hufrag
      | some type => exact shows_of_section hline hsection hversion
  have hmedia := mediaEffect_of_noMedia hnoMedia
  have hkeys : ¬ (ascii "a=ice-ufrag" <:+: line ∨ ascii "a=ice-pwd" <:+: line ∨
      ascii "a=fingerprint" <:+: line ∨ ascii "a=ssrc:" <:+: line) :=
    fun hkey => shows_of_sectionKey hline hmedia hkey haudio
  simp only [not_or] at hkeys
  obtain ⟨hkufrag, hkpwd, hkfp, hkssrc⟩ := hkeys
  -- a group shows itself only behind the ssrc that it begins with
  have hkgroup : ¬ ascii "a=ssrc-group:" <:+: line := by
    intro hkey
    obtain ⟨before, hlines, hne, hshows⟩ := shows_of_ssrcGroup hline hmedia hkey hkssrc
    exact hshows (h _ _ (by simpa using hlines) (by simpa using hne))
  refine ⟨hnoMedia, ?_⟩
  unfold sectionKeys
  simp only [List.forall_mem_cons]
  exact ⟨hkufrag, hkpwd, hkfp, hkssrc, hkgroup, fun key hkey => absurd hkey List.not_mem_nil⟩

/-- An empty text is not accepted, and one with a line is looked at. -/
theorem not_noEffect_empty {line : Bytes} (hline : IsLine line) : ¬ NoEffect line [] [] := by
  intro h
  have heq := h quietAdapter {}
  rw [observed_newConnection quietAdapter (by simpa using hline.2) (by simp)] at heq
  have hempty : observed (({} : PeerConnection).setRemoteSdp quietAdapter (printLines ([] ++ [])))
      = some (-1, none) := rfl
  rw [hempty] at heq
  cases hparsed : parsed ([] ++ [line]) with
  | none =>
      rw [hparsed] at heq
      cases heq
  | some r =>
      rw [hparsed] at heq
      simp at heq

/-- An attribute that is not interpreted has no effect, wherever it is inserted in whatever text
with a line, exactly if it is inert, which can be read off its bytes. In an empty text it has one,
for an empty text is no description. -/
theorem noEffect_iff (line : Bytes) (h : Uninterpreted line) :
    ((∀ before after, (∀ l ∈ before ++ after, IsLine l) → before ++ after ≠ [] →
        NoEffect line before after) ↔ Inert line) ∧
      ¬ NoEffect line [] [] :=
  ⟨⟨inert_of_noEffect h.1, fun hinert _ _ hlines hne => noEffect_of_inert hinert h.1 hlines hne⟩,
    not_noEffect_empty h.1⟩

/-- The direction of a section. -/
theorem sendrecv_inert :
    Uninterpreted (ascii "a=sendrecv") ∧
      (∀ before after, (∀ l ∈ before ++ after, IsLine l) → before ++ after ≠ [] →
        NoEffect (ascii "a=sendrecv") before after) := by
  have huninterpreted : Uninterpreted (ascii "a=sendrecv") := by
    refine ⟨by simp [IsLine, ascii, cr, lf], ascii "sendrecv", [], ?_, ?_, ?_⟩
    · simp [interpretedNames, ascii]
    · simp [ascii, colon]
    · exact .inl (by simp [ascii])
  refine ⟨huninterpreted, (noEffect_iff _ huninterpreted).1.mpr ?_⟩
  decide +kernel

/-- `a=tool:m=1` has `m=` in it, and ends the parsing. -/
theorem toolLine_rejected :
    lineEffect ({} : RemoteSdp).mediaType (ascii "a=tool:m=1") = .error .rejected := by
  decide +kernel

/-- A value with an `m=` in it: the text is accepted without the line and rejected with it. -/
theorem toolLine_shows :
    Uninterpreted (ascii "a=tool:m=1") ∧ IsLine (ascii "v=0") ∧
      ¬ NoEffect (ascii "a=tool:m=1") [ascii "v=0"] [] := by
  refine ⟨⟨by simp [IsLine, ascii, cr, lf], ascii "tool", ascii "m=1", ?_, ?_, ?_⟩,
    isLine_version, ?_⟩
  · simp [interpretedNames, ascii]
  · simp [ascii, colon]
  · exact .inr (by simp [ascii, colon])
  · exact not_noEffect (by decide +kernel) (by simp)
      (parsed_ne_of_error parseLines_version toolLine_rejected)

end Xrtc.Proofs.Pc
