import Xrtc.Proofs.Pc.InertLines
import Xrtc.Proofs.Pc.Tracks

/-!
# `Xrtc.Proofs.Pc.PrintedTracks`: tracks that are printed and read again

A pull stream offers the tracks that the answer of the push stream had. `build_ssrc` prints
them track by track, and whoever reads the lines merges them again. `printedEntries` are what
these lines say. `tracks_printed` says that merging them gives back the tracks, for tracks that
have been made by merging before (`Separate`): the ssrcs of a track stand together, so each
ssrc and each track is a block of entries of its own.

The second half is about the texts in such tracks. `ReadTrack` is what the parser has made
sure of when it has read them, and `readTrack_of_parseLines` says so for every text that is
accepted.
-/

set_option autoImplicit false

namespace Xrtc.Proofs.Pc

open Xrtc.Base
open Xrtc.Lib
open Xrtc.Ice (ascii colon split)
open Xrtc.Pc
open Xrtc.Proofs.Base

/-! ### The entries of printed tracks -/

/-- What the lines about an ssrc say. The last two are for older readers. -/
def printedAttributes (track : StreamParams) : List SsrcAttribute :=
  [.cname track.cname, .msid track.streamId (some track.id), .other, .other]

/-- What the lines of tracks say, in the order in which they are printed. -/
def printedEntries (tracks : List StreamParams) : List (UInt32 × SsrcAttribute) :=
  tracks.flatMap fun track => track.ssrcs.flatMap fun ssrc =>
    (printedAttributes track).map fun a => (ssrc, a)

/-- The groups of tracks, in the order in which they are printed. -/
def printedGroups (tracks : List StreamParams) : List SsrcGroup :=
  tracks.flatMap StreamParams.ssrcGroups

/-- The tracks have ids and ssrcs of their own, and each of their groups starts in them. -/
structure Separate (tracks : List StreamParams) : Prop where
  ids : (tracks.map StreamParams.id).Nodup
  once : ∀ track ∈ tracks, track.ssrcs.Nodup
  apart : ∀ track ∈ tracks, ∀ other ∈ tracks, ∀ ssrc ∈ track.ssrcs, ssrc ∈ other.ssrcs →
    other = track
  nonempty : ∀ track ∈ tracks, track.ssrcs ≠ []
  groups : ∀ track ∈ tracks, ∀ group ∈ track.ssrcGroups, startsIn track group = true

/-- What is known about an ssrc of a track. -/
def trackInfo (track : StreamParams) (ssrcId : UInt32) : SsrcInfo where
  ssrcId := ssrcId
  cname := track.cname
  streamId := track.streamId
  trackId := track.id

variable {tracks : List StreamParams}

/-- Separate tracks are different tracks. -/
theorem Separate.nodup (h : Separate tracks) : tracks.Nodup := h.ids.of_map

/-- They share no stream. -/
theorem Separate.nodup_ssrcs (h : Separate tracks) :
    (tracks.flatMap StreamParams.ssrcs).Nodup := by
  refine List.nodup_flatMap.mpr ⟨h.once, h.nodup.pairwise_of_forall_ne ?_⟩
  intro track htrack other hother hne ssrc hssrc hssrc'
  exact hne (h.apart track htrack other hother ssrc hssrc hssrc').symm

/-- The entries about one ssrc are a block. -/
theorem collect_printedEntries (h : (tracks.flatMap StreamParams.ssrcs).Nodup) :
    ssrcGrouping.collect (printedEntries tracks)
      = tracks.flatMap fun track => track.ssrcs.map (trackInfo track) := by
  let blocks : List (StreamParams × UInt32) :=
    tracks.flatMap fun track => track.ssrcs.map fun ssrc => (track, ssrc)
  let entries : StreamParams × UInt32 → List (UInt32 × SsrcAttribute) :=
    fun b => (printedAttributes b.1).map fun a => (b.2, a)
  have hentries : printedEntries tracks = blocks.flatMap entries := by
    simp only [printedEntries, blocks, entries, List.flatMap_assoc, List.flatMap_map]
  have hkeys : blocks.map Prod.snd = tracks.flatMap StreamParams.ssrcs := by
    simp only [blocks, List.map_flatMap, List.map_map]
    exact List.flatMap_congr fun track _ => List.map_id _
  rw [hentries, ssrcGrouping.collect_blocks Prod.snd entries (hkeys ▸ h)
    (fun b _ => List.cons_ne_nil _ _) fun b _ e he => ?_]
  · simp only [blocks, List.map_flatMap, List.map_map]
    rfl
  · obtain ⟨a, -, rfl⟩ := List.mem_map.mp he
    rfl

/-- A track without its groups. -/
def withoutGroups (track : StreamParams) : StreamParams := { track with ssrcGroups := [] }

/-- The ssrcs of a track, merged into one that has some of them already. -/
theorem foldl_trackInfo (track : StreamParams) (ssrcs read : List UInt32) :
    (ssrcs.map (trackInfo track)).foldl trackGrouping.add
        { withoutGroups track with ssrcs := read }
      = { withoutGroups track with ssrcs := read ++ ssrcs } := by
  induction ssrcs generalizing read with
  | nil => rw [List.append_nil]; rfl
  | cons ssrc ssrcs ih =>
      rw [List.map_cons, List.foldl_cons]
      exact (ih (read ++ [ssrc])).trans (by rw [List.append_assoc]; rfl)

/-- The ssrcs of one track are a block. -/
theorem createTracks_printedEntries (h : Separate tracks) :
    createTrackFromSsrcInfo (ssrcGrouping.collect (printedEntries tracks))
      = tracks.map withoutGroups := by
  have hcollect : ∀ infos, createTrackFromSsrcInfo infos = trackGrouping.collect infos := by
    intro infos
    rw [createTrackFromSsrcInfo, Grouping.collect]
    congr 1
    exact funext fun tracks => funext fun info => addToTrack_eq info tracks
  rw [collect_printedEntries h.nodup_ssrcs, hcollect, trackGrouping.collect_blocks StreamParams.id
    (fun track => track.ssrcs.map (trackInfo track)) h.ids]
  · refine List.map_congr_left fun track htrack => ?_
    -- the first ssrc brings the texts of the track
    obtain ⟨ssrc, ssrcs, hssrcs⟩ := List.exists_cons_of_ne_nil (h.nonempty track htrack)
    have hfold := foldl_trackInfo track ssrcs [ssrc]
    rw [List.singleton_append, ← hssrcs] at hfold
    rw [hssrcs, List.map_cons, List.foldl_cons]
    exact hfold
  · intro track htrack hnil
    exact h.nonempty track htrack (List.map_eq_nil_iff.mp hnil)
  · intro track _ info hinfo
    obtain ⟨ssrc, -, rfl⟩ := List.mem_map.mp hinfo
    rfl

/-- A group starts in a track when its first stream is one of it. -/
theorem startsIn_iff {track : StreamParams} {group : SsrcGroup} :
    startsIn track group = true ↔ ∃ ssrc, group.ssrcs.head? = some ssrc ∧ ssrc ∈ track.ssrcs := by
  rw [startsIn, Option.any_eq_true]
  simp only [StreamParams.hasSsrc, List.contains_iff_mem]

/-- The track that a group starts in is the only one. -/
theorem eq_of_startsIn (h : Separate tracks) {track other : StreamParams} (htrack : track ∈ tracks)
    (hother : other ∈ tracks) {group : SsrcGroup} (hgroup : startsIn track group = true)
    (hgroup' : startsIn other group = true) : other = track := by
  obtain ⟨ssrc, hfirst, hssrc⟩ := startsIn_iff.mp hgroup
  obtain ⟨ssrc', hfirst', hssrc'⟩ := startsIn_iff.mp hgroup'
  cases hfirst.symm.trans hfirst'
  exact h.apart track htrack other hother ssrc hssrc hssrc'

/-- Of the groups of a track all start in it or none does. -/
theorem filter_startsIn (h : Separate tracks) {track other : StreamParams}
    (htrack : track ∈ tracks) (hother : other ∈ tracks) :
    other.ssrcGroups.filter (startsIn track) = if other = track then track.ssrcGroups else [] := by
  split_ifs with heq
  · subst heq
    exact List.filter_eq_self.mpr (h.groups other hother)
  · refine List.filter_eq_nil_iff.mpr fun group hgroup hstarts => heq ?_
    exact eq_of_startsIn h htrack hother hstarts (h.groups other hother group hgroup)

/-- Every track gets its own groups back. A group goes to the tracks that it starts in, and
separate tracks share no stream. -/
theorem attach_printedGroups (h : Separate tracks) {track : StreamParams}
    (htrack : track ∈ tracks) :
    attach (printedGroups tracks) (withoutGroups track) = track := by
  have hgroups : (printedGroups tracks).filter (startsIn track) = track.ssrcGroups := by
    have heach : (tracks.flatMap fun other => other.ssrcGroups.filter (startsIn track))
        = tracks.flatMap fun other => if other = track then track.ssrcGroups else [] :=
      List.flatMap_congr fun other hother => filter_startsIn h htrack hother
    rw [printedGroups, List.filter_flatMap, heach]
    -- the track stands in the list once
    obtain ⟨before, after, rfl⟩ := List.append_of_mem htrack
    have hnodup := h.nodup
    rw [List.nodup_append, List.nodup_cons] at hnodup
    obtain ⟨-, ⟨hafter, -⟩, hbefore⟩ := hnodup
    rw [List.flatMap_append, List.flatMap_cons, if_pos rfl, List.flatMap_eq_nil_iff.mpr,
      List.flatMap_eq_nil_iff.mpr, List.nil_append, List.append_nil]
    · intro other hother
      rw [if_neg]
      rintro rfl
      exact hafter hother
    · intro other hother
      rw [if_neg]
      rintro rfl
      exact hbefore other hother other List.mem_cons_self rfl
  show ({ track with ssrcGroups := (printedGroups tracks).filter (startsIn track) } : StreamParams)
    = track
  rw [hgroups]

/-- Printed tracks are merged into the same tracks. -/
theorem tracks_printed (h : Separate tracks) :
    (printedGroups tracks).foldl addSsrcGroup
        (createTrackFromSsrcInfo (ssrcGrouping.collect (printedEntries tracks))) = tracks := by
  rw [foldl_addSsrcGroup, createTracks_printedEntries h, List.map_map]
  exact (List.map_congr_left fun track htrack => attach_printedGroups h htrack).trans
    (List.map_id _)

/-! ### Tracks of an accepted text -/

/-- The tracks that were parsed are tracks of their own: no two of one name, no stream in two of
them, and every group starts in its track. -/
theorem TracksPartition.separate {entries : List (UInt32 × SsrcAttribute)}
    {groups : List SsrcGroup} (h : TracksPartition entries groups tracks) : Separate tracks := by
  have hsame : ∀ track ∈ tracks, ∀ other ∈ tracks, track.id = other.id → track = other :=
    fun track htrack other hother => List.inj_on_of_nodup_map h.distinct htrack hother
  constructor
  · exact h.distinct
  · intro track htrack
    rw [List.nodup_iff_count_le_one]
    intro ssrc
    by_cases hssrc : ssrc ∈ track.ssrcs
    · obtain ⟨track', -, hcount, honly⟩ := h.once ssrc (h.only track htrack ssrc hssrc)
      rw [honly track htrack hssrc, hcount]
    · rw [List.count_eq_zero_of_not_mem hssrc]
      exact Nat.zero_le 1
  · intro track htrack other hother ssrc hssrc hssrc'
    obtain ⟨track', -, -, honly⟩ := h.once ssrc (h.only track htrack ssrc hssrc)
    rw [honly track htrack hssrc, honly other hother hssrc']
  · intro track htrack hnil
    -- the id of the track is that of an ssrc, which is in no other track
    have hid : track.id ∈ tracks.map StreamParams.id := List.mem_map_of_mem htrack
    rw [h.trackOrder, mem_firsts] at hid
    obtain ⟨ssrc, hssrc, hid⟩ := List.mem_map.mp hid
    obtain ⟨track', htrack', hcount, -⟩ := h.once ssrc (mem_firsts.mp hssrc)
    have hmem : ssrc ∈ track'.ssrcs := List.count_pos_iff.mp (by omega)
    rw [hsame track htrack track' htrack' (hid.symm.trans (h.trackId track' htrack' ssrc hmem).symm)]
      at hnil
    rw [hnil] at hmem
    exact List.not_mem_nil hmem
  · intro track htrack group hgroup
    rw [h.groups track htrack] at hgroup
    exact (List.mem_filter.mp hgroup).2

/-! ### Their texts -/

/-- A text on one line, without blanks. -/
def IsWord (text : Bytes) : Prop := space ∉ text ∧ lf ∉ text

/-- A value on one line. What stands behind a colon does not begin with another one. -/
def IsValue (text : Bytes) : Prop := text.head? ≠ some colon ∧ lf ∉ text

/-- The texts of an attribute that has been read. -/
def ReadAttribute : SsrcAttribute → Prop
  | .cname value => IsValue value
  | .msid streamId trackId => IsWord streamId ∧ IsValue streamId ∧ ∀ id ∈ trackId, IsWord id
  | .other => True

/-- The texts of an ssrc that has been read. -/
structure ReadInfo (info : SsrcInfo) : Prop where
  cname : IsValue info.cname
  streamId : IsWord info.streamId ∧ IsValue info.streamId
  trackId : IsWord info.trackId

/-- A group that has been read. -/
structure ReadGroup (group : SsrcGroup) : Prop where
  ssrcs : group.ssrcs ≠ []
  semantics : group.semantics ≠ [] ∧ colon ∉ group.semantics ∧ IsWord group.semantics

/-- The texts of a track that has been read. -/
structure ReadTrack (track : StreamParams) : Prop where
  cname : IsValue track.cname
  streamId : IsWord track.streamId ∧ IsValue track.streamId
  id : IsWord track.id
  groups : ∀ group ∈ track.ssrcGroups, ReadGroup group

/-- The empty value can be printed. -/
theorem isValue_nil : IsValue [] := ⟨by simp, List.not_mem_nil⟩

/-- So can the empty word. -/
theorem isWord_nil : IsWord [] := ⟨List.not_mem_nil, List.not_mem_nil⟩

/-- The fields of an `msid`. -/
theorem readAttribute_msid {value : Bytes} (hvalue : IsValue value) {a : SsrcAttribute}
    (h : parseMsid value = .ok a) : ReadAttribute a := by
  obtain ⟨streamId, fields, hsplit, hjoin, hfields⟩ :=
    split_spec space value [] List.not_mem_nil
  rw [List.nil_append] at hjoin
  have hlf : lf ∉ streamId ∧ ∀ f ∈ fields, lf ∉ f := by
    have hall := hvalue.2
    rw [hjoin, List.mem_append, not_or] at hall
    refine ⟨hall.1, fun f hf hmem => hall.2 ?_⟩
    exact List.mem_flatMap.mpr ⟨f, hf, List.mem_cons_of_mem _ hmem⟩
  have hstreamId : IsWord streamId ∧ IsValue streamId := by
    refine ⟨⟨hfields _ List.mem_cons_self, hlf.1⟩, fun hhead => hvalue.1 ?_, hlf.1⟩
    rw [hjoin, List.head?_append, hhead]
    rfl
  unfold parseMsid at h
  rw [hsplit] at h
  rcases fields with _ | ⟨trackId, _ | ⟨field, fields⟩⟩
  · cases h
    exact ⟨hstreamId.1, hstreamId.2, fun id hid => by cases hid⟩
  · cases h
    refine ⟨hstreamId.1, hstreamId.2, fun id hid => ?_⟩
    cases hid
    exact ⟨hfields _ (by simp), hlf.2 _ (by simp)⟩
  · cases h

/-- What a line says about an ssrc can be printed in a line again: the fields of a line have no
blank and no line end inside. -/
theorem readAttribute_of_ssrcEffect {line : Bytes} (hlf : lf ∉ line)
    {e : UInt32 × SsrcAttribute} (h : ssrcEffect line = .ok (some e)) : ReadAttribute e.2 := by
  unfold ssrcEffect at h
  split_ifs at h
  case neg => cases h
  obtain ⟨⟨ssrcId, field2⟩, hid, h⟩ := bind_eq_ok.mp h
  obtain ⟨⟨attr, value⟩, hfields, h⟩ := bind_eq_ok.mp h
  obtain ⟨a, hattr, h⟩ := bind_eq_ok.mp h
  cases h
  obtain ⟨⟨field1, rest⟩, hfirst, hid⟩ := bind_eq_ok.mp hid
  obtain ⟨ssrcIdS, -, hid⟩ := bind_eq_ok.mp hid
  obtain ⟨id, -, hid⟩ := bind_eq_ok.mp hid
  cases hid
  -- the value is a part of the line behind a colon
  obtain ⟨-, -, hrest⟩ := tokenizeFirst_spec (orElse_eq_ok.mp hfirst)
  obtain ⟨-, hhead, hparts⟩ := tokenizeFirst_spec (orElse_eq_ok.mp hfields)
  have hvalue : IsValue value := by
    refine ⟨hhead, fun hmem => hlf (List.mem_of_mem_drop (hrest _ ?_))⟩
    exact List.mem_append_right _ (hparts _ (List.mem_append_right _ hmem))
  unfold parseSsrcAttribute at hattr
  split_ifs at hattr
  · cases hattr
    exact hvalue
  · exact readAttribute_msid hvalue hattr
  · cases hattr
    trivial

/-- The value behind a name, if there is one. -/
theorem getAttribute_spec {line : Bytes} (h : getAttribute line ≠ []) :
    colon ∉ getAttribute line ∧ ∀ b ∈ getAttribute line, b ∈ line := by
  unfold getAttribute at h ⊢
  obtain ⟨a, fields, hsplit, hjoin, hfields⟩ := split_spec colon line [] List.not_mem_nil
  have htokens : ∀ f ∈ tokenize colon [] line, colon ∉ f ∧ ∀ b ∈ f, b ∈ line := by
    intro f hf
    rw [tokenize_eq_filter, hsplit] at hf
    have hmem := (List.mem_filter.mp hf).1
    rw [List.nil_append] at hjoin
    refine ⟨hfields f hmem, fun b hb => ?_⟩
    rw [hjoin]
    rcases List.mem_cons.mp hmem with rfl | hmem
    · exact List.mem_append_left _ hb
    · exact List.mem_append_right _ (List.mem_flatMap.mpr ⟨f, hmem, List.mem_cons_of_mem _ hb⟩)
  revert h htokens
  rcases tokenize colon [] line with _ | ⟨name, _ | ⟨value, _ | ⟨field, fields⟩⟩⟩ <;>
    intro h htokens
  case cons.cons.nil => exact htokens value (by simp)
  all_goals exact absurd rfl h

/-- The group of a line can be printed again: it has a semantics and at least one stream. -/
theorem readGroup_of_parse {line : Bytes} (hlf : lf ∉ line) {group : SsrcGroup}
    (h : parseSsrcGroup line = some group) : ReadGroup group := by
  obtain ⟨ssrc, ssrcs, hssrcs⟩ := parseSsrcGroup_ssrcs h
  obtain ⟨name, fields, hsplit, hjoin, hfields⟩ :=
    split_spec space (line.drop 2) [] List.not_mem_nil
  rw [List.nil_append] at hjoin
  have hname : IsWord name := by
    refine ⟨hfields name List.mem_cons_self, fun hmem => hlf ?_⟩
    have hdrop : lf ∈ line.drop 2 := by
      rw [hjoin]
      exact List.mem_append_left _ hmem
    exact List.mem_of_mem_drop hdrop
  unfold parseSsrcGroup at h
  rw [hsplit] at h
  rcases fields with _ | ⟨field, fields⟩
  · cases h
  · dsimp only at h
    obtain ⟨ids, -, h⟩ := Option.bind_eq_some_iff.mp h
    split_ifs at h with hsemantics
    cases h
    obtain ⟨hcolon, hparts⟩ := getAttribute_spec hsemantics
    have hne : ids ≠ [] := by
      rintro rfl
      cases hssrcs
    exact ⟨hne, hsemantics, hcolon, fun hmem => hname.1 (hparts _ hmem),
      fun hmem => hname.2 (hparts _ hmem)⟩

/-- What is kept about the ssrcs of a section. -/
theorem readInfo_setSsrcInfo {ssrcId : UInt32} {a : SsrcAttribute} (ha : ReadAttribute a)
    {infos : List SsrcInfo} (h : ∀ info ∈ infos, ReadInfo info) :
    ∀ info ∈ setSsrcInfo ssrcId a infos, ReadInfo info := by
  have hset : ∀ info, ReadInfo info → ReadInfo (info.set a) := by
    intro info hinfo
    cases a with
    | cname value => exact ⟨ha, hinfo.streamId, hinfo.trackId⟩
    | msid streamId trackId =>
        obtain ⟨hword, hvalue, hid⟩ := ha
        refine ⟨hinfo.cname, ⟨hword, hvalue⟩, ?_⟩
        cases trackId with
        | none => exact hinfo.trackId
        | some id => exact hid id rfl
    | other => exact hinfo
  induction infos with
  | nil =>
      refine List.forall_mem_singleton.mpr (hset _ ⟨isValue_nil, ⟨isWord_nil, isValue_nil⟩, ?_⟩)
      exact isWord_nil
  | cons info infos ih =>
      obtain ⟨hinfo, hinfos⟩ := List.forall_mem_cons.mp h
      rw [setSsrcInfo]
      split_ifs
      · exact List.forall_mem_cons.mpr ⟨hset info hinfo, hinfos⟩
      · exact List.forall_mem_cons.mpr ⟨hinfo, ih hinfos⟩

/-- The local objects of a section whose lines have been read. -/
structure ReadSection (type : MediaType) (sec : RemoteSection) : Prop where
  ssrcInfo : ∀ info ∈ sec.ssrcInfo, ReadInfo info
  ssrcGroups : ∀ group ∈ sec.ssrcGroups, ReadGroup group
  audio : type = .audio → sec.ssrcGroups = []

/-- One line in a section leaves tracks and groups in it that can be printed. An audio section has
no groups before, and gets none. -/
theorem ReadSection.applySection {type : MediaType} {sec : RemoteSection}
    (h : ReadSection type sec) {line : Bytes} (hlf : lf ∉ line) {e : SectionEffect}
    (he : sectionEffect type line = .ok e) : ReadSection type (applySection sec e) := by
  obtain ⟨transport, -, he⟩ := bind_eq_ok.mp he
  obtain ⟨group, hgroup, he⟩ := bind_eq_ok.mp he
  obtain ⟨ssrc, hssrc, he⟩ := bind_eq_ok.mp he
  cases he
  -- groups are read in video sections only
  have hread : ∀ g ∈ group, type = .video ∧ ReadGroup g := by
    intro g hg
    cases hg
    unfold videoGroupEffect at hgroup
    split_ifs at hgroup with htype
    · unfold ssrcGroupEffect at hgroup
      split_ifs at hgroup
      · cases hparse : parseSsrcGroup line with
        | none =>
            rw [hparse] at hgroup
            cases hgroup
        | some g' =>
            rw [hparse] at hgroup
            cases hgroup
            exact ⟨htype, readGroup_of_parse hlf hparse⟩
      · cases hgroup
    · cases hgroup
  constructor
  · cases ssrc with
    | none => exact h.ssrcInfo
    | some entry => exact readInfo_setSsrcInfo (readAttribute_of_ssrcEffect hlf hssrc) h.ssrcInfo
  · intro g hg
    rcases List.mem_append.mp hg with hg | hg
    · exact h.ssrcGroups g hg
    · exact (hread g (Option.mem_toList.mp hg)).2
  · intro htype
    show sec.ssrcGroups ++ group.toList = []
    cases group with
    | none => rw [h.audio htype]; rfl
    | some g =>
        have hvideo := (hread g rfl).1
        rw [htype] at hvideo
        cases hvideo

/-- A line of the description leaves what is known about ssrcs. -/
theorem ReadSection.applyMedia {type : MediaType} {s : RemoteSdp}
    (h : ReadSection type (sectionAt s type)) (e : MediaEffect) :
    ReadSection type (sectionAt (applyMedia s e) type) := by
  obtain ⟨hinfo, hgroups⟩ := applyMedia_section s e type
  exact ⟨hinfo ▸ h.ssrcInfo, hgroups ▸ h.ssrcGroups, fun htype => hgroups ▸ h.audio htype⟩

/-- All lines of a text leave such sections, by induction on the lines. A line that opens a
section leaves what had been read for it. -/
theorem readSection_of_parseLines {type : MediaType} {lines : List Bytes}
    (hlf : ∀ line ∈ lines, lf ∉ line) {s s' : RemoteSdp} (hparse : s.parseLines lines = .ok s')
    (h : ReadSection type (sectionAt s type)) : ReadSection type (sectionAt s' type) := by
  -- on the lines, from any local objects
  induction lines generalizing s with
  | nil =>
      cases hparse
      exact h
  | cons line lines ih =>
      obtain ⟨hline, hlines⟩ := List.forall_mem_cons.mp hlf
      cases he : lineEffect s.mediaType line with
      | error failure =>
          obtain ⟨media, herror⟩ := parseLines_of_error he lines
          rw [herror] at hparse
          cases hparse
      | ok e =>
          rw [parseLines_of_ok he] at hparse
          refine ih hlines hparse ?_
          have hmedia := h.applyMedia e.media
          obtain ⟨media, -, he⟩ := bind_eq_ok.mp he
          revert he
          cases sectionType (afterMedia s.mediaType media) with
          | none =>
              intro he
              cases he
              exact hmedia
          | some type' =>
              intro he
              obtain ⟨e', hsection, he⟩ := bind_eq_ok.mp he
              cases he
              rw [applyLine]
              dsimp only
              rw [sectionAt_setSection]
              split_ifs with htype
              · subst htype
                exact hmedia.applySection hline hsection
              · exact hmedia

/-! ### Their tracks -/

/-- An ssrc joins its track, which has no groups yet. -/
theorem readTrack_addToTrack {info : SsrcInfo} (hinfo : ReadInfo info)
    {tracks : List StreamParams} (h : ∀ track ∈ tracks, ReadTrack track ∧ track.ssrcGroups = []) :
    ∀ track ∈ addToTrack info tracks, ReadTrack track ∧ track.ssrcGroups = [] := by
  induction tracks with
  | nil =>
      refine List.forall_mem_singleton.mpr ⟨⟨hinfo.cname, hinfo.streamId, hinfo.trackId, ?_⟩, rfl⟩
      exact fun group hgroup => absurd hgroup List.not_mem_nil
  | cons track tracks ih =>
      obtain ⟨⟨htrack, hnone⟩, htracks⟩ := List.forall_mem_cons.mp h
      rw [addToTrack]
      split_ifs
      · refine List.forall_mem_cons.mpr ⟨⟨?_, hnone⟩, htracks⟩
        exact ⟨hinfo.cname, hinfo.streamId, htrack.id, htrack.groups⟩
      · exact List.forall_mem_cons.mpr ⟨⟨htrack, hnone⟩, ih htracks⟩

/-- Tracks made of readable streams are readable, and have no groups yet. -/
theorem readTrack_createTracks {infos : List SsrcInfo} (hinfos : ∀ info ∈ infos, ReadInfo info) :
    ∀ track ∈ createTrackFromSsrcInfo infos, ReadTrack track ∧ track.ssrcGroups = [] := by
  have hfold : ∀ (infos : List SsrcInfo) (tracks : List StreamParams),
      (∀ info ∈ infos, ReadInfo info) →
      (∀ track ∈ tracks, ReadTrack track ∧ track.ssrcGroups = []) →
      ∀ track ∈ infos.foldl (fun tracks info => addToTrack info tracks) tracks,
        ReadTrack track ∧ track.ssrcGroups = [] := by
    intro infos
    induction infos with
    | nil => exact fun tracks _ h => h
    | cons info infos ih =>
        intro tracks hinfos h
        obtain ⟨hinfo, hinfos⟩ := List.forall_mem_cons.mp hinfos
        exact ih _ hinfos (readTrack_addToTrack hinfo h)
  exact hfold infos [] hinfos fun track htrack => absurd htrack List.not_mem_nil

/-- The tracks of a section that has been read. -/
theorem ReadSection.readTracks {type : MediaType} {sec : RemoteSection}
    (h : ReadSection type sec) :
    ∀ track ∈ sec.tracks, ReadTrack track ∧ (type = .audio → track.ssrcGroups = []) := by
  intro track htrack
  rw [RemoteSection.tracks, foldl_addSsrcGroup] at htrack
  obtain ⟨track, hmem, rfl⟩ := List.mem_map.mp htrack
  obtain ⟨hread, hnone⟩ := readTrack_createTracks h.ssrcInfo track hmem
  refine ⟨⟨hread.cname, hread.streamId, hread.id, fun group hgroup => ?_⟩, fun htype => ?_⟩
  · rcases List.mem_append.mp hgroup with hgroup | hgroup
    · exact hread.groups group hgroup
    · exact h.ssrcGroups group (List.mem_filter.mp hgroup).1
  · show track.ssrcGroups ++ sec.ssrcGroups.filter _ = []
    rw [hnone, h.audio htype]
    rfl

/-- The lines of a text end at its line feeds. -/
theorem lf_notMem_sdpFields (sdp : Bytes) : ∀ line ∈ sdpFields sdp, lf ∉ line := by
  obtain ⟨a, fields, hsplit, -, hfields⟩ := split_spec lf sdp [] List.not_mem_nil
  have htokens : ∀ line ∈ tokenize lf [] sdp, lf ∉ line := by
    intro line hline
    rw [tokenize_eq_filter, hsplit] at hline
    exact hfields line (List.mem_filter.mp hline).1
  unfold sdpFields
  dsimp only
  split_ifs
  · intro line hline hmem
    obtain ⟨field, hfield, rfl⟩ := List.mem_map.mp hline
    exact htokens field hfield (List.mem_of_mem_dropLast hmem)
  · exact htokens

/-- The tracks of a section of an accepted text: they are separate, and their texts are what
the parser lets through. -/
theorem readTracks_of_parseLines {sdp : Bytes} {s : RemoteSdp}
    (h : RemoteSdp.parseLines {} (sdpFields sdp) = .ok s) (type : MediaType) :
    Separate (sectionAt s type).tracks ∧
      ∀ track ∈ (sectionAt s type).tracks,
        ReadTrack track ∧ (type = .audio → track.ssrcGroups = []) := by
  have hempty : ReadSection type (sectionAt {} type) := by
    cases type <;> exact ⟨fun info hinfo => absurd hinfo List.not_mem_nil,
      fun group hgroup => absurd hgroup List.not_mem_nil, fun _ => rfl⟩
  have hsection := readSection_of_parseLines (lf_notMem_sdpFields sdp) h hempty
  exact ⟨(tracks_parseLines h type).separate, hsection.readTracks⟩

end Xrtc.Proofs.Pc
