import Xrtc.Proofs.Pc.Tracks

/-!
# `Xrtc.Proofs.Pc.SameTracks`: when two sections have the same tracks

The tracks of a section are made of its entries, one for each ssrc, and of its groups. A track
has the ssrcs of all its entries, but the name and the stream of the last one only. So an entry
can be replaced without a trace in two ways: by an equal one, or by one with the same track id
if a later entry of the track hides both (`createTracks_replace_iff`). An entry more always
shows (`createTracks_concat_ne`). A group shows at the tracks with its first ssrc, and nowhere
else (`attach_eq_iff`).
-/

set_option autoImplicit false

namespace Xrtc.Proofs.Pc

open Xrtc.Lib
open Xrtc.Pc

/-! ### Entries -/

/-- A later entry of the track has its name and its stream. -/
def Hidden (entry : SsrcInfo) (later : List SsrcInfo) : Prop :=
  ∃ info ∈ later, info.trackId = entry.trackId

/-- The loop over the entries merges them by the track id. -/
theorem createTracks_eq_collect (infos : List SsrcInfo) :
    createTrackFromSsrcInfo infos = trackGrouping.collect infos := by
  rw [createTrackFromSsrcInfo, Grouping.collect]
  congr 1
  exact funext fun tracks => funext fun info => addToTrack_eq info tracks

/-- The ssrcs of a track are those of its entries. -/
theorem ssrcs_trackGroup (infos : List SsrcInfo) (id : Bytes) :
    (trackGrouping.group infos id).ssrcs =
      (infos.filter fun info => info.trackId = id).map SsrcInfo.ssrcId := by
  rw [Grouping.group, (foldl_trackGrouping _ _).1]
  exact List.nil_append _

/-- The name and the stream of a track are those of the last entry. -/
theorem trackGroup_of_last {infos entries : List SsrcInfo} {id : Bytes} {last : SsrcInfo}
    (h : (infos.filter fun info => info.trackId = id) = entries ++ [last]) :
    (trackGrouping.group infos id).cname = last.cname ∧
      (trackGrouping.group infos id).streamId = last.streamId := by
  have hgroup : trackGrouping.group infos id =
      (entries ++ [last]).foldl trackGrouping.add { id } := by
    rw [← h]
    rfl
  rw [hgroup, List.foldl_append]
  exact ⟨rfl, rfl⟩

/-- Two groups of entries make the same track if their last entries agree. -/
theorem trackGroup_congr {infos infos' entries entries' : List SsrcInfo} {id : Bytes}
    {last last' : SsrcInfo}
    (h : (infos.filter fun info => info.trackId = id) = entries ++ [last])
    (h' : (infos'.filter fun info => info.trackId = id) = entries' ++ [last'])
    (hssrcs : (entries ++ [last]).map SsrcInfo.ssrcId = (entries' ++ [last']).map SsrcInfo.ssrcId)
    (hcname : last.cname = last'.cname) (hstream : last.streamId = last'.streamId) :
    trackGrouping.group infos id = trackGrouping.group infos' id := by
  have hid : ∀ infos : List SsrcInfo, (trackGrouping.group infos id).id = id :=
    fun infos => trackGrouping.groupKey_group infos id
  have hgroups : ∀ infos : List SsrcInfo, (trackGrouping.group infos id).ssrcGroups = [] :=
    fun infos => (foldl_trackGrouping _ _).2
  have hssrcs' : (trackGrouping.group infos id).ssrcs = (trackGrouping.group infos' id).ssrcs := by
    rw [ssrcs_trackGroup, ssrcs_trackGroup, h, h', hssrcs]
  obtain ⟨hname, hstream'⟩ := trackGroup_of_last h
  obtain ⟨hname', hstream''⟩ := trackGroup_of_last h'
  have hfields : ∀ track track' : StreamParams, track.id = track'.id → track.ssrcs = track'.ssrcs →
      track.ssrcGroups = track'.ssrcGroups → track.cname = track'.cname →
      track.streamId = track'.streamId → track = track' := by
    rintro ⟨⟩ ⟨⟩ rfl rfl rfl rfl rfl
    rfl
  refine hfields _ _ ?_ hssrcs' ?_ ?_ ?_
  · rw [hid, hid]
  · rw [hgroups, hgroups]
  · rw [hname, hname', hcname]
  · rw [hstream', hstream'', hstream]

section Replace

variable {before later : List SsrcInfo} {entry entry' : SsrcInfo}

/-- The entries of a track, around one of them. -/
theorem filter_around (before later : List SsrcInfo) (entry : SsrcInfo) (id : Bytes) :
    ((before ++ entry :: later).filter fun info => info.trackId = id) =
      (before.filter fun info => info.trackId = id) ++
        ((if entry.trackId = id then [entry] else []) ++
          later.filter fun info => info.trackId = id) := by
  rw [List.filter_append, List.filter_cons]
  split_ifs with h h' h' <;> simp_all

/-- An entry that shows the same as another one in its place: it is the same, or belongs to the
same track and a later entry of that track hides it. -/
theorem createTracks_replace_iff (hssrc : entry.ssrcId = entry'.ssrcId) :
    createTrackFromSsrcInfo (before ++ entry :: later) =
        createTrackFromSsrcInfo (before ++ entry' :: later) ↔
      entry = entry' ∨ (entry.trackId = entry'.trackId ∧ Hidden entry later) := by
  rw [createTracks_eq_collect, createTracks_eq_collect, Grouping.collect_eq_collect_iff]
  constructor
  · rintro ⟨-, hgroups⟩
    have hgroup := hgroups entry.trackId (List.mem_map.mpr ⟨entry, by simp, rfl⟩)
    -- the track has one ssrc less if the other entry is not in it
    have htrack : entry.trackId = entry'.trackId := by
      by_contra hne
      have hlength := congrArg (fun track => track.ssrcs.length) hgroup
      simp only [ssrcs_trackGroup, filter_around, List.length_map, List.length_append] at hlength
      rw [if_neg (Ne.symm hne)] at hlength
      simp at hlength
    by_cases hhidden : Hidden entry later
    · exact .inr ⟨htrack, hhidden⟩
    refine .inl ?_
    -- otherwise both are the last entries of the track
    have hlater : (later.filter fun info => info.trackId = entry.trackId) = [] := by
      rw [List.filter_eq_nil_iff]
      intro info hinfo hid
      exact hhidden ⟨info, hinfo, of_decide_eq_true hid⟩
    have hfilter := filter_around before later entry entry.trackId
    have hfilter' := filter_around before later entry' entry.trackId
    rw [if_pos rfl, hlater, List.append_nil] at hfilter
    rw [if_pos htrack.symm, hlater, List.append_nil] at hfilter'
    obtain ⟨hname, hstream⟩ := trackGroup_of_last hfilter
    obtain ⟨hname', hstream'⟩ := trackGroup_of_last hfilter'
    have hcname : entry.cname = entry'.cname := by
      rw [← hname, ← hname']
      exact congrArg StreamParams.cname hgroup
    have hstreamId : entry.streamId = entry'.streamId := by
      rw [← hstream, ← hstream']
      exact congrArg StreamParams.streamId hgroup
    cases entry
    cases entry'
    simp_all
  · rintro (rfl | ⟨htrack, info, hinfo, hid⟩)
    · exact ⟨rfl, fun _ _ => rfl⟩
    have hkeys : (before ++ entry :: later).map trackGrouping.key =
        (before ++ entry' :: later).map trackGrouping.key := by
      rw [List.map_append, List.map_append, List.map_cons, List.map_cons]
      exact congrArg (fun id => _ ++ id :: _) htrack
    refine ⟨by rw [hkeys], fun id _ => ?_⟩
    by_cases hother : entry.trackId = id
    · -- the last entry of the track is the same one, behind both
      have hmem : info ∈ later.filter fun info => info.trackId = id :=
        List.mem_filter.mpr ⟨hinfo, decide_eq_true (hid.trans hother)⟩
      obtain ⟨entries, last, hlast⟩ :=
        (List.eq_nil_or_concat' _).resolve_left (List.ne_nil_of_mem hmem)
      have hfilter := filter_around before later entry id
      have hfilter' := filter_around before later entry' id
      rw [if_pos hother, hlast, ← List.append_assoc, ← List.append_assoc] at hfilter
      rw [if_pos (htrack ▸ hother), hlast, ← List.append_assoc, ← List.append_assoc] at hfilter'
      exact trackGroup_congr hfilter hfilter' (by simp [hssrc]) rfl rfl
    · have hother' : ¬ entry'.trackId = id := fun h => hother (htrack.trans h)
      unfold Grouping.group
      have hfilter : (before ++ entry :: later).filter (fun info => info.trackId = id) =
          (before ++ entry' :: later).filter fun info => info.trackId = id := by
        rw [filter_around, filter_around, if_neg hother, if_neg hother']
      exact congrArg (fun entries => entries.foldl trackGrouping.add (trackGrouping.start id)) hfilter

/-- One more entry shows, as its ssrc is in a track. -/
theorem createTracks_concat_ne (infos : List SsrcInfo) (entry : SsrcInfo) :
    createTrackFromSsrcInfo (infos ++ [entry]) ≠ createTrackFromSsrcInfo infos := by
  rw [createTracks_eq_collect, createTracks_eq_collect, ne_eq, Grouping.collect_eq_collect_iff]
  rintro ⟨-, hgroups⟩
  have hgroup := hgroups entry.trackId (List.mem_map.mpr ⟨entry, by simp, rfl⟩)
  have hlength := congrArg (fun track => track.ssrcs.length) hgroup
  simp [ssrcs_trackGroup] at hlength

end Replace

/-- The ssrcs of the tracks are those of the entries. -/
theorem exists_track_iff (infos : List SsrcInfo) (ssrc : UInt32) :
    (∃ track ∈ createTrackFromSsrcInfo infos, track.hasSsrc ssrc = true) ↔
      ∃ info ∈ infos, info.ssrcId = ssrc := by
  rw [createTracks_eq_collect, Grouping.collect_eq]
  simp only [List.mem_map, mem_firsts, StreamParams.hasSsrc, List.contains_iff_mem]
  constructor
  · rintro ⟨track, ⟨id, -, rfl⟩, hssrc⟩
    rw [ssrcs_trackGroup] at hssrc
    obtain ⟨info, hinfo, rfl⟩ := List.mem_map.mp hssrc
    exact ⟨info, (List.mem_filter.mp hinfo).1, rfl⟩
  · rintro ⟨info, hinfo, rfl⟩
    refine ⟨_, ⟨info.trackId, ⟨info, hinfo, rfl⟩, rfl⟩, ?_⟩
    rw [ssrcs_trackGroup]
    exact List.mem_map.mpr ⟨info, List.mem_filter.mpr ⟨hinfo, decide_eq_true rfl⟩, rfl⟩

/-! ### Groups -/

/-- No track has the first ssrc of a group. -/
def Unseen (tracks : List StreamParams) (group : Option SsrcGroup) : Prop :=
  ∀ g ∈ group, ∀ track ∈ tracks, startsIn track g = false

/-- Two groups, or none, in the place of the last one: they are equal, or nothing shows of
either. -/
theorem attach_eq_iff (groups : List SsrcGroup) (tracks : List StreamParams)
    (group group' : Option SsrcGroup) :
    tracks.map (attach (groups ++ group.toList)) = tracks.map (attach (groups ++ group'.toList)) ↔
      group = group' ∨ (Unseen tracks group ∧ Unseen tracks group') := by
  -- in each track the groups in front are the same, so the last one decides
  have hone : ∀ track : StreamParams,
      attach (groups ++ group.toList) track = attach (groups ++ group'.toList) track ↔
        group.toList.filter (startsIn track) = group'.toList.filter (startsIn track) := by
    intro track
    unfold attach
    rw [List.filter_append, List.filter_append, StreamParams.mk.injEq]
    simp
  rw [List.map_inj_left]
  constructor
  · intro hall
    by_cases heq : group = group'
    · exact .inl heq
    refine .inr ⟨?_, ?_⟩
    -- a group that starts in a track shows there, and only the same one shows as much
    · rintro g rfl track htrack
      have hfilter := (hone track).mp (hall track htrack)
      cases hstarts : startsIn track g with
      | false => rfl
      | true =>
          rcases group' with _ | g' <;> simp [hstarts, List.filter_cons] at hfilter
          split_ifs at hfilter
          exact absurd (congrArg some (List.cons.inj hfilter).1) heq
    · rintro g rfl track htrack
      have hfilter := (hone track).mp (hall track htrack)
      cases hstarts : startsIn track g with
      | false => rfl
      | true =>
          rcases group with _ | g' <;> simp [hstarts, List.filter_cons] at hfilter
          split_ifs at hfilter
          exact absurd (congrArg some (List.cons.inj hfilter).1) heq
  · rintro (rfl | ⟨h, h'⟩) track htrack
    · rfl
    rw [hone]
    have hnone : ∀ group, Unseen tracks group → group.toList.filter (startsIn track) = [] := by
      intro group hunseen
      cases group with
      | none => rfl
      | some g => simp [hunseen g rfl track htrack]
    rw [hnone group h, hnone group' h']

/-- The tracks of a section without its groups. -/
theorem createTracks_of_tracks (sec : RemoteSection) :
    sec.tracks.map (fun track => { track with ssrcGroups := [] }) =
      createTrackFromSsrcInfo sec.ssrcInfo := by
  rw [RemoteSection.tracks, foldl_addSsrcGroup, List.map_map, createTracks_eq_collect,
    Grouping.collect_eq, List.map_map]
  refine List.map_congr_left fun id _ => ?_
  have hgroups : (trackGrouping.group sec.ssrcInfo id).ssrcGroups = [] :=
    (foldl_trackGrouping _ _).2
  show ({ trackGrouping.group sec.ssrcInfo id with ssrcGroups := [] } : StreamParams) = _
  rw [← hgroups]

/-- Sections have the same tracks exactly if their entries make the same tracks and their last
groups show the same. -/
theorem tracks_eq_tracks_iff {sec sec' : RemoteSection} {groups : List SsrcGroup}
    {group group' : Option SsrcGroup} (h : sec.ssrcGroups = groups ++ group.toList)
    (h' : sec'.ssrcGroups = groups ++ group'.toList) :
    sec.tracks = sec'.tracks ↔
      createTrackFromSsrcInfo sec.ssrcInfo = createTrackFromSsrcInfo sec'.ssrcInfo ∧
        (group = group' ∨ (Unseen (createTrackFromSsrcInfo sec.ssrcInfo) group ∧
          Unseen (createTrackFromSsrcInfo sec'.ssrcInfo) group')) := by
  have htracks : ∀ sec : RemoteSection, sec.tracks =
      (createTrackFromSsrcInfo sec.ssrcInfo).map (attach sec.ssrcGroups) :=
    fun sec => foldl_addSsrcGroup _ _
  constructor
  · intro heq
    have hcreate := congrArg
      (List.map fun track : StreamParams => { track with ssrcGroups := [] }) heq
    rw [createTracks_of_tracks, createTracks_of_tracks] at hcreate
    refine ⟨hcreate, ?_⟩
    rw [htracks, htracks, h, h', hcreate, attach_eq_iff] at heq
    rw [hcreate]
    exact heq
  · rintro ⟨hcreate, hgroups⟩
    rw [hcreate] at hgroups
    rw [htracks, htracks, h, h', hcreate, attach_eq_iff]
    exact hgroups

end Xrtc.Proofs.Pc
