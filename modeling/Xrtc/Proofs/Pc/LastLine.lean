import Xrtc.Proofs.Pc.InertLines
import Xrtc.Proofs.Pc.LastSsrc

/-!
# `Xrtc.Proofs.Pc.LastLine`: the last line of an answer with one character more

`KeptInServer` is the condition under which `set_remote_sdp` does the same with a last line `x`
and with `x ++ [c]`: both throw, or both are rejected and leave the same groups and sections, or
both are accepted and say the same. It is put together from the conditions on the parts of the
loop body (`Xrtc.Proofs.Pc.LastCharacter`, `Xrtc.Proofs.Pc.LastSsrc`), and is about the bytes of
the line and what the current section has before it. `outcome_concat_iff` says that it is exact,
in every state that the lines before can leave.
-/

set_option autoImplicit false

namespace Xrtc.Proofs.Pc

open Xrtc.Base
open Xrtc.Lib
open Xrtc.Ice (ascii colon split)
open Xrtc.Pc

/-! ### The condition -/

/-- In the section of the line, the last character changes nothing. If it makes the line an
`m=` line of another media type, the shorter line says nothing new in the section before. -/
def SectionKept (s : RemoteSdp) (x : Bytes) (c : UInt8) : Prop :=
  if IsMedia x ↔ IsMedia (x ++ [c]) then
    ∀ type, sectionType (mediaTypeAfter s.mediaType x) = some type →
      TransportKept (sectionAt s type).td x c ∧ SsrcKept (sectionAt s type).ssrcInfo x c ∧
        (type = .video → GroupKept (sectionAt s type).ssrcInfo x c)
  else
    ∀ type, sectionType s.mediaType = some type →
      TransportSet (sectionAt s type).td x ∧ SsrcSet (sectionAt s type).ssrcInfo x ∧
        (type = .video → GroupUnseen (sectionAt s type).ssrcInfo x)

/-- The last character of the last line changes nothing:

- `thrown`: an exception leaves the parser with both lines;
- `rejected`: both lines are rejected, and they give the same group and open the same section;
- `accepted`: both are accepted, and they say the same in their section, too. -/
inductive KeptInServer (s : RemoteSdp) (x : Bytes) (c : UInt8) : Prop
  | thrown (h : ¬ LineSafe s.mediaType x) (h' : ¬ LineSafe s.mediaType (x ++ [c]))
  | rejected (hsafe : LineSafe s.mediaType x) (hsafe' : LineSafe s.mediaType (x ++ [c]))
      (h : ¬ LineAccepted s.mediaType x) (h' : ¬ LineAccepted s.mediaType (x ++ [c]))
      (hbundle : BundleKept x c) (hopening : OpeningKept x c)
  | accepted (h : LineAccepted s.mediaType x) (h' : LineAccepted s.mediaType (x ++ [c]))
      (hbundle : BundleKept x c) (hopening : OpeningKept x c) (hsection : SectionKept s x c)

/-! ### What the loop leaves -/

/-- What the loop and what is behind it make of lines, from the local objects that it has: a
return value and a description, unless an exception leaves it. -/
def outcome (s : RemoteSdp) (lines : List Bytes) : Option (Int × SessionDescription) :=
  match s.parseLines lines with
  | .error (.outOfRange, _) => none
  | .error (.rejected, s) => some (-1, s.partialDescription)
  | .ok s => some (0, s.description)

/-- The current section is in the description. -/
def Entered (s : RemoteSdp) : Prop :=
  ∀ type, sectionType s.mediaType = some type → type ∈ s.contents

/-- A line keeps it true that a current section was entered. -/
theorem Entered.applyLine {s : RemoteSdp} (h : Entered s) {line : Bytes} {e : LineEffect}
    (he : lineEffect s.mediaType line = .ok e) : Entered (applyLine s e) := by
  intro type htype
  rw [lineEffect_mediaType he] at htype
  rw [(applyLine_spec he).1, List.mem_append]
  unfold mediaTypeAfter at htype
  unfold namedSection
  split_ifs at htype with hmedia
  · rw [if_pos hmedia, htype]
    exact .inr (List.mem_singleton_self type)
  · exact .inl (h type htype)

/-- The lines that are parsed keep it. -/
theorem Entered.parseLines {lines : List Bytes} : ∀ {s s' : RemoteSdp}, Entered s →
    s.parseLines lines = .ok s' → Entered s' := by
  induction lines with
  | nil =>
      intro s s' hs h
      cases h
      exact hs
  | cons line lines ih =>
      intro s s' hs h
      cases he : lineEffect s.mediaType line with
      | error failure =>
          obtain ⟨media, herror⟩ := parseLines_of_error he lines
          rw [herror] at h
          cases h
      | ok e =>
          rw [parseLines_of_ok he] at h
          exact ih (hs.applyLine he) h

/-- An `m=` line that is passed opens the section that it names. -/
theorem openedSection_of_ok {line : Bytes} {e : MediaEffect} (h : mediaEffect line = .ok e) :
    openedSection line = namedSection line := by
  obtain ⟨haccepted, -⟩ := mediaEffect_isOk_iff.mp ⟨e, h⟩
  unfold openedSection namedSection
  by_cases hmedia : IsMedia line
  · have hfields := haccepted hmedia
    rw [Base.length_split] at hfields
    rw [if_pos ⟨hmedia, by omega⟩, if_pos hmedia]
  · rw [if_neg (fun h => hmedia h.1), if_neg hmedia]

/-- What a rejected line leaves. -/
theorem parseLines_rejected {s : RemoteSdp} {line : Bytes}
    (h : lineEffect s.mediaType line = .error .rejected) :
    ∃ s', s.parseLines [line] = .error (.rejected, s') ∧
      s'.contents = s.contents ++ (openedSection line).toList ∧
      s'.contentGroups = s.contentGroups ++ (bundleOf line).toList := by
  rcases parseLines_of_failure h [] with ⟨hmedia, herror⟩ | ⟨e, hmedia, herror⟩
  · -- an `m=` line with too few fields
    have hisMedia : IsMedia line := by
      by_contra hnot
      obtain ⟨e, he, -⟩ := mediaEffect_of_not_isMedia hnot
      rw [he] at hmedia
      cases hmedia
    have hopened : openedSection line = none := by
      rw [mediaEffect_of_isMedia hisMedia, Base.length_split] at hmedia
      by_cases hfew : line.count space + 1 < 3
      · exact if_neg fun h => by omega
      · rw [if_neg hfew] at hmedia
        split at hmedia <;> cases hmedia
    have hbundle : bundleOf line = none := if_neg hisMedia.2
    exact ⟨s, herror, by simp [hopened], by simp [hbundle]⟩
  · obtain ⟨hcontents, hgroups, -⟩ := applyMedia_spec (s := s) hmedia
    exact ⟨_, herror, by rw [hcontents, openedSection_of_ok hmedia], hgroups⟩

/-- Two such descriptions are equal exactly when their contents and groups are. -/
theorem partialDescription_eq_iff (s s' : RemoteSdp) :
    s.partialDescription = s'.partialDescription ↔
      s.contents = s'.contents ∧ s.contentGroups = s'.contentGroups := by
  have htypes : ∀ s : RemoteSdp,
      s.partialDescription.contents.map MediaContentDescription.type = s.contents := by
    intro s
    show (s.contents.map _).map _ = _
    rw [List.map_map]
    refine (List.map_congr_left fun type _ => ?_).trans (List.map_id _)
    cases type <;> rfl
  constructor
  · intro heq
    refine ⟨?_, congrArg SessionDescription.contentGroups heq⟩
    rw [← htypes s, heq, htypes]
  · rintro ⟨hcontents, hgroups⟩
    rw [RemoteSdp.partialDescription, RemoteSdp.partialDescription, hcontents, hgroups]

/-- The list of an optional value tells it. -/
theorem optionToList_inj {α : Type} {a b : Option α} : a.toList = b.toList ↔ a = b := by
  cases a <;> cases b <;> simp

/-- What a description shows of the local objects: the sections that were opened, the groups, the
tracks of these sections, and the transports of both. -/
theorem description_eq_iff (s s' : RemoteSdp) : s.description = s'.description ↔
    s.contents = s'.contents ∧ s.contentGroups = s'.contentGroups ∧
      (∀ type ∈ s.contents, (sectionAt s type).tracks = (sectionAt s' type).tracks) ∧
      ∀ type, (sectionAt s type).td = (sectionAt s' type).td := by
  have htypes : ∀ s : RemoteSdp,
      s.description.contents.map MediaContentDescription.type = s.contents := by
    intro s
    show (s.contents.map _).map _ = _
    rw [List.map_map]
    refine (List.map_congr_left fun type _ => ?_).trans (List.map_id _)
    cases type <;> rfl
  have hstreams : ∀ s : RemoteSdp, s.description.contents.map MediaContentDescription.sendStreams
      = s.contents.map fun type => (sectionAt s type).tracks := by
    intro s
    show (s.contents.map _).map _ = _
    rw [List.map_map]
    refine List.map_congr_left fun type _ => ?_
    cases type <;> rfl
  constructor
  · intro heq
    have hcontents : s.contents = s'.contents := by
      rw [← htypes s, heq, htypes]
    have htracks := hstreams s
    rw [heq, hstreams s', ← hcontents] at htracks
    have htds := congrArg SessionDescription.transportInfos heq
    obtain ⟨haudio, hvideo⟩ := List.cons.inj htds
    refine ⟨hcontents, congrArg SessionDescription.contentGroups heq, ?_, ?_⟩
    · intro type htype
      exact (List.map_inj_left.mp htracks type htype).symm
    · intro type
      cases type with
      | audio => exact haudio
      | video => exact (List.cons.inj hvideo).1
  · rintro ⟨hcontents, hgroups, htracks, htds⟩
    have haudio : s.audio.td = s'.audio.td := htds .audio
    have hvideo : s.video.td = s'.video.td := htds .video
    unfold RemoteSdp.description
    rw [← hcontents, hgroups, haudio, hvideo]
    congr 1
    refine List.map_congr_left fun type htype => ?_
    have htrack := htracks type htype
    cases type with
    | audio =>
        show { audioContentDescription with sendStreams := (sectionAt s .audio).tracks } = _
        rw [htrack]
        rfl
    | video =>
        show { videoContentDescription with sendStreams := (sectionAt s .video).tracks } = _
        rw [htrack]
        rfl

/-! ### Two lines in one section -/

/-- The parts of the effect in a section. -/
theorem sectionEffect_parts {type : MediaType} {line : Bytes} {e : SectionEffect}
    (h : sectionEffect type line = .ok e) :
    TransportReading line e.transport ∧ videoGroupEffect type line = .ok e.group ∧
      SsrcReading line e.ssrc := by
  obtain ⟨t, ht, hrest⟩ := bind_eq_ok.mp h
  obtain ⟨g, hg, hrest'⟩ := bind_eq_ok.mp hrest
  obtain ⟨r, hr, hpure⟩ := bind_eq_ok.mp hrest'
  cases hpure
  exact ⟨transportReading_of_ok ht, hg, ssrcReading_of_ok hr⟩

/-- The parts of the effect of a line. -/
theorem lineEffect_parts {mediaType line : Bytes} {e : LineEffect}
    (h : lineEffect mediaType line = .ok e) :
    mediaEffect line = .ok e.media ∧
      match sectionType (mediaTypeAfter mediaType line) with
      | none => e.current = none
      | some type => ∃ e', sectionEffect type line = .ok e' ∧ e.current = some (type, e') := by
  obtain ⟨media, hmedia, hrest⟩ := bind_eq_ok.mp h
  rw [afterMedia_eq hmedia] at hrest
  cases htype : sectionType (mediaTypeAfter mediaType line) with
  | none =>
      rw [htype] at hrest
      cases hrest
      exact ⟨hmedia, rfl⟩
  | some type =>
      rw [htype] at hrest
      obtain ⟨e', hsection, hpure⟩ := bind_eq_ok.mp hrest
      cases hpure
      exact ⟨hmedia, e', hsection, rfl⟩

/-- A line has its say on the streams of the section only through its attribute. -/
theorem applySection_ssrcInfo (sec : RemoteSection) (e : SectionEffect) :
    (applySection sec e).ssrcInfo = withSsrc e.ssrc sec.ssrcInfo := by
  rcases e with ⟨transport, group, _ | ⟨ssrc, a⟩⟩ <;> rfl

/-- Both lines do the same in a section exactly under the conditions on its parts. -/
theorem applySection_concat_iff {type : MediaType} {x : Bytes} {c : UInt8} {e e' : SectionEffect}
    (h : sectionEffect type x = .ok e) (h' : sectionEffect type (x ++ [c]) = .ok e')
    (sec : RemoteSection) :
    (applySection sec e).td = (applySection sec e').td ∧
        (applySection sec e).tracks = (applySection sec e').tracks ↔
      TransportKept sec.td x c ∧ SsrcKept sec.ssrcInfo x c ∧
        (type = .video → GroupKept sec.ssrcInfo x c) := by
  obtain ⟨ht, hg, hr⟩ := sectionEffect_parts h
  obtain ⟨ht', hg', hr'⟩ := sectionEffect_parts h'
  have hgroups : ∀ e : SectionEffect,
      (applySection sec e).ssrcGroups = sec.ssrcGroups ++ e.group.toList := fun _ => rfl
  have htracks := tracks_eq_tracks_iff (hgroups e) (hgroups e')
  rw [applySection_ssrcInfo, applySection_ssrcInfo, ssrc_concat_iff hr hr' sec.ssrcInfo] at htracks
  have hgroup : (e.group = e'.group ∨
      (Unseen (createTrackFromSsrcInfo (withSsrc e.ssrc sec.ssrcInfo)) e.group ∧
        Unseen (createTrackFromSsrcInfo (withSsrc e'.ssrc sec.ssrcInfo)) e'.group)) ↔
      (type = .video → GroupKept sec.ssrcInfo x c) := by
    unfold videoGroupEffect at hg hg'
    by_cases htype : type = .video
    · rw [if_pos htype] at hg hg'
      rw [group_concat_iff (groupReading_of_ok hg) (groupReading_of_ok hg') hr hr']
      simp [htype]
    · -- there are no groups in the audio section
      rw [if_neg htype] at hg hg'
      have heq := hg.symm.trans hg'
      exact iff_of_true (.inl (Except.ok.inj heq)) fun hvideo => absurd hvideo htype
  rw [hgroup] at htracks
  rw [htracks]
  exact and_congr (transport_concat_iff ht ht' sec.td) Iff.rfl

/-- A line leaves a section as it is exactly if it says nothing new there. -/
theorem applySection_self_iff {type : MediaType} {line : Bytes} {e : SectionEffect}
    (h : sectionEffect type line = .ok e) (sec : RemoteSection) :
    (applySection sec e).td = sec.td ∧ (applySection sec e).tracks = sec.tracks ↔
      TransportSet sec.td line ∧ SsrcSet sec.ssrcInfo line ∧
        (type = .video → GroupUnseen sec.ssrcInfo line) := by
  obtain ⟨ht, hg, hr⟩ := sectionEffect_parts h
  have hgroups : (applySection sec e).ssrcGroups = sec.ssrcGroups ++ e.group.toList := rfl
  have hsame : sec.ssrcGroups = sec.ssrcGroups ++ (none : Option SsrcGroup).toList :=
    (List.append_nil _).symm
  have htracks := tracks_eq_tracks_iff hgroups hsame
  rw [applySection_ssrcInfo, hr.set_iff sec.ssrcInfo] at htracks
  have hnone : Unseen (createTrackFromSsrcInfo sec.ssrcInfo) none := by
    intro g hg
    cases hg
  -- an audio section has no groups at all
  have hgroup : (e.group = none ∨
      (Unseen (createTrackFromSsrcInfo (withSsrc e.ssrc sec.ssrcInfo)) e.group ∧
        Unseen (createTrackFromSsrcInfo sec.ssrcInfo) none)) ↔
      (type = .video → GroupUnseen sec.ssrcInfo line) := by
    unfold videoGroupEffect at hg
    by_cases htype : type = .video
    · rw [if_pos htype] at hg
      have hread := groupReading_of_ok hg
      rw [hread.unseen_iff hr, and_iff_left hnone]
      simp only [htype, forall_true_left]
      refine or_iff_right_of_imp ?_
      intro hnogroup hkey
      rw [hnogroup] at hread
      cases hread with
      | nothing hkey' => exact absurd hkey hkey'
    · rw [if_neg htype] at hg
      exact iff_of_true (.inl (Except.ok.inj hg).symm) fun hvideo => absurd hvideo htype
  rw [hgroup] at htracks
  rw [htracks]
  exact and_congr (ht.set_iff sec.td) Iff.rfl

/-! ### Two accepted lines -/

/-- The name of a section is nothing that a line says about its transport. -/
theorem transportSet_mid (td : TransportDescription) (mid line : Bytes) :
    TransportSet { td with mid } line ↔ TransportSet td line :=
  ⟨fun h => ⟨h.iceUfrag, h.icePwd, h.fingerprint⟩, fun h => ⟨h.iceUfrag, h.icePwd, h.fingerprint⟩⟩

/-- The name of the section is no matter of the transport lines. -/
theorem transportKept_mid (td : TransportDescription) (mid x : Bytes) (c : UInt8) :
    TransportKept { td with mid } x c ↔ TransportKept td x c := by
  unfold TransportKept
  rw [transportSet_mid td mid x, transportSet_mid td mid (x ++ [c])]

/-- The first part of the loop body only names a section. -/
theorem applyMedia_td (s : RemoteSdp) (e : MediaEffect) (type : MediaType) :
    ∃ mid, (sectionAt (applyMedia s e) type).td = { (sectionAt s type).td with mid } := by
  cases e with
  | nothing => exact ⟨_, rfl⟩
  | group g => cases type <;> exact ⟨_, rfl⟩
  | enter mediaType =>
      show ∃ mid, (sectionAt (s.enter mediaType) type).td = _
      rw [enter_eq]
      cases sectionType mediaType with
      | none => cases type <;> exact ⟨_, rfl⟩
      | some type' => cases type' <;> cases type <;> exact ⟨_, rfl⟩

/-- A line that is no `m=` line adds its group. -/
theorem mediaEffect_eq_of_not_isMedia {line : Bytes} (h : ¬ IsMedia line) :
    mediaEffect line = .ok (match bundleOf line with | none => .nothing | some g => .group g) := by
  unfold mediaEffect bundleOf
  by_cases hgroup : ascii "m=group:BUNDLE" <:+: line
  · rw [if_pos (contains_iff.mpr hgroup), if_pos hgroup]
    rcases split space [] line with _ | ⟨item, _ | ⟨name, names⟩⟩ <;> rfl
  · have hmedia : ¬ ascii "m=" <:+: line := fun hmedia => h ⟨hmedia, hgroup⟩
    rw [if_neg (fun hc => hgroup (contains_iff.mp hc)),
      if_neg (fun hc => hmedia (contains_iff.mp hc)), if_neg hgroup]

section Accepted

variable {s : RemoteSdp} {x : Bytes} {c : UInt8} {e e' : LineEffect}

/-- If both lines are `m=` lines, or neither is, then the first part of the loop body does the
same. -/
theorem media_eq_of_isMedia_iff (he : mediaEffect x = .ok e.media)
    (he' : mediaEffect (x ++ [c]) = .ok e'.media) (hbundle : BundleKept x c)
    (hmedia : IsMedia x ↔ IsMedia (x ++ [c])) :
    e.media = e'.media ∧
      ∀ mediaType, mediaTypeAfter mediaType x = mediaTypeAfter mediaType (x ++ [c]) := by
  have hafter : e.media = e'.media →
      ∀ mediaType, mediaTypeAfter mediaType x = mediaTypeAfter mediaType (x ++ [c]) := by
    intro heq mediaType
    rw [← afterMedia_eq he, ← afterMedia_eq he', heq]
  suffices heq : e.media = e'.media from ⟨heq, hafter heq⟩
  by_cases hx : IsMedia x
  · have hx' := hmedia.mp hx
    -- there are three fields, so the first one stays
    have hfields := (mediaEffect_isOk_iff.mp ⟨_, he⟩).1 hx
    rw [Base.length_split] at hfields
    have hspace : space ∈ x := List.count_pos_iff.mp (by omega)
    rw [mediaEffect_of_isMedia hx] at he
    rw [mediaEffect_of_isMedia hx', firstField_concat hspace] at he'
    split_ifs at he he'
    rw [← Except.ok.inj he, ← Except.ok.inj he']
  · have hx' : ¬ IsMedia (x ++ [c]) := fun h => hx (hmedia.mpr h)
    rw [mediaEffect_eq_of_not_isMedia hx] at he
    rw [mediaEffect_eq_of_not_isMedia hx', ← (bundleOf_concat_iff x c).mpr hbundle] at he'
    exact Except.ok.inj (he.symm.trans he')

/-- Two lines that are accepted in the same section make the same description exactly if they do
the same to its transport, its streams and its groups. -/
theorem description_concat_iff (hs : Entered s) (he : lineEffect s.mediaType x = .ok e)
    (he' : lineEffect s.mediaType (x ++ [c]) = .ok e') (hmedia : e.media = e'.media)
    (hafter : mediaTypeAfter s.mediaType x = mediaTypeAfter s.mediaType (x ++ [c])) :
    (applyLine s e).description = (applyLine s e').description ↔
      ∀ type, sectionType (mediaTypeAfter s.mediaType x) = some type →
        TransportKept (sectionAt s type).td x c ∧ SsrcKept (sectionAt s type).ssrcInfo x c ∧
          (type = .video → GroupKept (sectionAt s type).ssrcInfo x c) := by
  obtain ⟨-, hcurrent⟩ := lineEffect_parts he
  obtain ⟨-, hcurrent'⟩ := lineEffect_parts he'
  rw [← hafter] at hcurrent'
  have hentered := hs.applyLine he
  cases htype : sectionType (mediaTypeAfter s.mediaType x) with
  -- outside the sections neither line does anything
  | none =>
      rw [htype] at hcurrent hcurrent'
      have heq : applyLine s e = applyLine s e' := by
        unfold applyLine
        rw [hcurrent, hcurrent', hmedia]
      refine iff_of_true (by rw [heq]) ?_
      intro type hsome
      cases hsome
  | some type =>
      rw [htype] at hcurrent hcurrent'
      obtain ⟨e₁, hsection, hcurrent⟩ := hcurrent
      obtain ⟨e₁', hsection', hcurrent'⟩ := hcurrent'
      have hmem : type ∈ (applyLine s e).contents :=
        hentered type (by rw [lineEffect_mediaType he, htype])
      -- the media part of both lines is the same, so only the section differs
      have hline : applyLine s e = setSection (applyMedia s e.media) type
          (applySection (sectionAt (applyMedia s e.media) type) e₁) := by
        unfold applyLine
        rw [hcurrent]
      have hline' : applyLine s e' = setSection (applyMedia s e.media) type
          (applySection (sectionAt (applyMedia s e.media) type) e₁') := by
        unfold applyLine
        rw [hcurrent', hmedia]
      obtain ⟨mid, htd⟩ := applyMedia_td s e.media type
      obtain ⟨hinfo, -⟩ := applyMedia_section s e.media type
      have hkept := applySection_concat_iff hsection hsection' (sectionAt (applyMedia s e.media) type)
      rw [hinfo, htd, transportKept_mid] at hkept
      rw [description_eq_iff, hline, hline']
      rw [hline, setSection_contents] at hmem
      simp only [setSection_contents, setSection_contentGroups, sectionAt_setSection, true_and,
        Option.some.injEq, forall_eq']
      rw [← hkept]
      -- the section is among the contents, so its tracks can be seen
      constructor
      · rintro ⟨htracks, htds⟩
        have htrack := htracks type hmem
        have htd' := htds type
        rw [if_pos rfl, if_pos rfl] at htrack htd'
        exact ⟨htd', htrack⟩
      · rintro ⟨htd', htrack⟩
        constructor
        · intro type' _
          split_ifs
          · exact htrack
          · rfl
        · intro type'
          split_ifs
          · exact htd'
          · rfl

/-- The character can only complete the key of an `m=` line with another media type. -/
theorem unknownSection_of_completed (he : mediaEffect x = .ok e.media)
    (he' : mediaEffect (x ++ [c]) = .ok e'.media) (hbundle : BundleKept x c)
    (hopening : OpeningKept x c) (hmedia : ¬ (IsMedia x ↔ IsMedia (x ++ [c]))) :
    e.media = .nothing ∧ ¬ IsMedia x ∧ IsMedia (x ++ [c]) ∧
      namedSection (x ++ [c]) = none := by
  have hgroup : ∀ {line : Bytes}, IsMedia line → bundleOf line = none := fun h => if_neg h.2
  have hsame := (bundleOf_concat_iff x c).mpr hbundle
  have hopened := (openedSection_concat_iff x c).mpr hopening
  by_cases hx : IsMedia x
  · -- then it would complete the key of a group with names
    exfalso
    have hx' : ¬ IsMedia (x ++ [c]) := fun h => hmedia (iff_of_true hx h)
    have hkey : ascii "m=group:BUNDLE" <:+: x ++ [c] := by
      by_contra hkey
      exact hx' ⟨Base.infix_concat_of_within hx.1 c, hkey⟩
    have hfields := (mediaEffect_isOk_iff.mp ⟨_, he⟩).1 hx
    rw [Base.length_split] at hfields
    have hspace : space ∈ x := List.count_pos_iff.mp (by omega)
    rw [hgroup hx, bundleOf_eq, if_pos ⟨hkey, List.mem_append_left _ hspace⟩] at hsame
    cases hsame
  · have hx' : IsMedia (x ++ [c]) := by
      by_contra h
      exact hmedia (iff_of_false hx h)
    rw [hgroup hx'] at hsame
    rw [mediaEffect_eq_of_not_isMedia hx, hsame] at he
    refine ⟨(Except.ok.inj he).symm, hx, hx', ?_⟩
    rw [← openedSection_of_ok he', ← hopened]
    exact if_neg fun h => hx h.1

/-- Two accepted lines of which the longer one is an `m=` line of another media type. -/
theorem description_completed_iff (hs : Entered s) (he : lineEffect s.mediaType x = .ok e)
    (he' : lineEffect s.mediaType (x ++ [c]) = .ok e') (hnothing : e.media = .nothing)
    (hx : ¬ IsMedia x) (hx' : IsMedia (x ++ [c])) (hnamed : namedSection (x ++ [c]) = none) :
    (applyLine s e).description = (applyLine s e').description ↔
      ∀ type, sectionType s.mediaType = some type →
        TransportSet (sectionAt s type).td x ∧ SsrcSet (sectionAt s type).ssrcInfo x ∧
          (type = .video → GroupUnseen (sectionAt s type).ssrcInfo x) := by
  obtain ⟨-, hcurrent⟩ := lineEffect_parts he
  have hdescription : (applyLine s e').description = s.description := by
    rw [applyLine_of_unknownSection hx' hnamed he']
    rfl
  have hafter : mediaTypeAfter s.mediaType x = s.mediaType := if_neg hx
  rw [hafter] at hcurrent
  rw [hdescription]
  cases htype : sectionType s.mediaType with
  -- the longer line does nothing, and neither does the shorter one without a section
  | none =>
      rw [htype] at hcurrent
      have heq : applyLine s e = s := by
        unfold applyLine
        rw [hcurrent, hnothing]
        rfl
      refine iff_of_true (by rw [heq]) ?_
      intro type hsome
      cases hsome
  | some type =>
      rw [htype] at hcurrent
      obtain ⟨e₁, hsection, hcurrent⟩ := hcurrent
      -- with a section, the shorter one must say what is known there
      have hline : applyLine s e = setSection s type (applySection (sectionAt s type) e₁) := by
        unfold applyLine
        rw [hcurrent, hnothing]
        rfl
      have hmem := hs type htype
      rw [description_eq_iff, hline]
      simp only [setSection_contents, setSection_contentGroups, sectionAt_setSection, true_and,
        Option.some.injEq, forall_eq']
      rw [← applySection_self_iff hsection]
      constructor
      · rintro ⟨htracks, htds⟩
        have htrack := htracks type hmem
        have htd := htds type
        rw [if_pos rfl] at htrack htd
        exact ⟨htd, htrack⟩
      · rintro ⟨htd, htrack⟩
        constructor
        · intro type' _
          split_ifs with heq
          · rw [heq, htrack]
          · rfl
        · intro type'
          split_ifs with heq
          · rw [heq, htd]
          · rfl

/-- Two accepted lines do the same exactly if the last character changes none of the parts. -/
theorem accepted_concat_iff (hs : Entered s) (he : lineEffect s.mediaType x = .ok e)
    (he' : lineEffect s.mediaType (x ++ [c]) = .ok e') :
    (applyLine s e).description = (applyLine s e').description ↔
      BundleKept x c ∧ OpeningKept x c ∧ SectionKept s x c := by
  obtain ⟨hmedia, -⟩ := lineEffect_parts he
  obtain ⟨hmedia', -⟩ := lineEffect_parts he'
  -- where opening and group are the same, the section decides: either both lines or none are media
  -- lines, or the character completes one that names no known section
  have hsection : BundleKept x c → OpeningKept x c →
      ((applyLine s e).description = (applyLine s e').description ↔ SectionKept s x c) := by
    intro hbundle hopening
    unfold SectionKept
    split_ifs with hiff
    · obtain ⟨heq, hafter⟩ := media_eq_of_isMedia_iff hmedia hmedia' hbundle hiff
      exact description_concat_iff hs he he' heq (hafter _)
    · obtain ⟨hnothing, hx, hx', hnamed⟩ :=
        unknownSection_of_completed hmedia hmedia' hbundle hopening hiff
      exact description_completed_iff hs he he' hnothing hx hx' hnamed
  -- contents and groups can be read off the description
  constructor
  · intro heq
    obtain ⟨hcontents, hgroups, -⟩ := (description_eq_iff _ _).mp heq
    obtain ⟨hopened, hbundled, -⟩ := applyLine_spec he
    obtain ⟨hopened', hbundled', -⟩ := applyLine_spec he'
    rw [hopened, hopened', ← openedSection_of_ok hmedia, ← openedSection_of_ok hmedia'] at hcontents
    rw [hbundled, hbundled'] at hgroups
    have hopening := (openedSection_concat_iff x c).mp
      (optionToList_inj.mp (List.append_cancel_left hcontents))
    have hbundle := (bundleOf_concat_iff x c).mp
      (optionToList_inj.mp (List.append_cancel_left hgroups))
    exact ⟨hbundle, hopening, (hsection hbundle hopening).mp heq⟩
  · rintro ⟨hbundle, hopening, hkept⟩
    exact (hsection hbundle hopening).mpr hkept

end Accepted

/-! ### Two last lines -/

/-- How the loop ends with a last line: an exception leaves it, or the line is rejected, or it
is accepted. -/
inductive LastLineEnds (s : RemoteSdp) (line : Bytes) : Prop
  | thrown (hthrows : ¬ LineSafe s.mediaType line) (hnot : ¬ LineAccepted s.mediaType line)
      (hout : outcome s [line] = none)
  | rejected (hsafe : LineSafe s.mediaType line) (hnot : ¬ LineAccepted s.mediaType line)
      {s' : RemoteSdp} (hout : outcome s [line] = some (-1, s'.partialDescription))
      (hcontents : s'.contents = s.contents ++ (openedSection line).toList)
      (hgroups : s'.contentGroups = s.contentGroups ++ (bundleOf line).toList)
  | accepted (hsafe : LineSafe s.mediaType line) (haccepted : LineAccepted s.mediaType line)
      {e : LineEffect} (he : lineEffect s.mediaType line = .ok e)
      (hout : outcome s [line] = some (0, (applyLine s e).description))

/-- Every last line ends in one of these ways, by the three results of its effect. -/
theorem lastLineEnds (s : RemoteSdp) (line : Bytes) : LastLineEnds s line := by
  have hsafe : ∀ {result}, lineEffect s.mediaType line = result → result ≠ .error .outOfRange →
      LineSafe s.mediaType line := by
    intro result h hne
    by_contra hthrows
    exact hne (h.symm.trans (lineEffect_outOfRange_iff.mpr hthrows))
  have hnot : ∀ {failure}, lineEffect s.mediaType line = .error failure →
      ¬ LineAccepted s.mediaType line := by
    intro failure h haccepted
    obtain ⟨e, he⟩ := lineEffect_isOk_iff.mpr haccepted
    cases h.symm.trans he
  rcases h : lineEffect s.mediaType line with (_ | _) | e
  · obtain ⟨s', herror, hcontents, hgroups⟩ := parseLines_rejected h
    exact .rejected (hsafe h (by simp)) (hnot h) (by rw [outcome, herror]) hcontents hgroups
  · obtain ⟨e, herror⟩ := parseLines_of_error h []
    exact .thrown (lineEffect_outOfRange_iff.mp h) (hnot h) (by rw [outcome, herror])
  · refine .accepted (hsafe h (by simp)) (lineEffect_isOk_iff.mp ⟨e, h⟩) h ?_
    rw [outcome, parseLines_of_ok h]
    rfl

/-- The two lines do the same as the last line exactly under the condition. -/
theorem outcome_concat_iff {s : RemoteSdp} (hs : Entered s) (x : Bytes) (c : UInt8) :
    outcome s [x] = outcome s [x ++ [c]] ↔ KeptInServer s x c := by
  -- if the two end in different ways, then neither side holds
  have hdiffer : outcome s [x] ≠ outcome s [x ++ [c]] → ¬ KeptInServer s x c →
      (outcome s [x] = outcome s [x ++ [c]] ↔ KeptInServer s x c) := iff_of_false
  cases lastLineEnds s x with
  | thrown hthrows hnot hout =>
      cases lastLineEnds s (x ++ [c]) with
      | thrown hthrows' hnot' hout' =>
          exact iff_of_true (hout.trans hout'.symm) (.thrown hthrows hthrows')
      | rejected hsafe' hnot' hout' =>
          refine hdiffer (by simp [hout, hout']) ?_
          rintro (_ | _ | _) <;> contradiction
      | accepted hsafe' haccepted' he' hout' =>
          refine hdiffer (by simp [hout, hout']) ?_
          rintro (_ | _ | _) <;> contradiction
  | rejected hsafe hnot hout hcontents hgroups =>
      cases lastLineEnds s (x ++ [c]) with
      | thrown hthrows' hnot' hout' =>
          refine hdiffer (by simp [hout, hout']) ?_
          rintro (_ | _ | _) <;> contradiction
      | rejected hsafe' hnot' hout' hcontents' hgroups' =>
          rw [hout, hout', Option.some.injEq, Prod.mk.injEq, and_iff_right rfl,
            partialDescription_eq_iff, hcontents, hcontents', hgroups, hgroups',
            List.append_cancel_left_eq, List.append_cancel_left_eq, optionToList_inj,
            optionToList_inj, openedSection_concat_iff, bundleOf_concat_iff]
          constructor
          · rintro ⟨hopening, hbundle⟩
            exact .rejected hsafe hsafe' hnot hnot' hbundle hopening
          · rintro (⟨h, -⟩ | ⟨-, -, -, -, hbundle, hopening⟩ | ⟨h, -⟩)
            · exact absurd hsafe h
            · exact ⟨hopening, hbundle⟩
            · exact absurd h hnot
      | accepted hsafe' haccepted' he' hout' =>
          refine hdiffer (by simp [hout, hout']) ?_
          rintro (_ | _ | _) <;> contradiction
  | accepted hsafe haccepted he hout =>
      cases lastLineEnds s (x ++ [c]) with
      | thrown hthrows' hnot' hout' =>
          refine hdiffer (by simp [hout, hout']) ?_
          rintro (_ | _ | _) <;> contradiction
      | rejected hsafe' hnot' hout' =>
          refine hdiffer (by simp [hout, hout']) ?_
          rintro (_ | _ | _) <;> contradiction
      | accepted hsafe' haccepted' he' hout' =>
          rw [hout, hout', Option.some.injEq, Prod.mk.injEq, and_iff_right rfl,
            accepted_concat_iff hs he he']
          constructor
          · rintro ⟨hbundle, hopening, hsection⟩
            exact .accepted haccepted haccepted' hbundle hopening hsection
          · rintro (⟨h, -⟩ | ⟨-, -, h, -⟩ | ⟨-, -, hbundle, hopening, hsection⟩)
            · exact absurd hsafe h
            · exact absurd haccepted h
            · exact ⟨hbundle, hopening, hsection⟩

end Xrtc.Proofs.Pc
