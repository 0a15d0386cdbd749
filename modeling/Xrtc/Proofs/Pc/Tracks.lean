import Xrtc.Lib.Grouping
import Xrtc.Proofs.Pc.SetRemoteSdp

/-!
# `Xrtc.Proofs.Pc.Tracks`: the tracks of an answer

What an answer says about an ssrc is spread over the lines of its section. `ssrcEntries` are
these lines, in the order of the text: an ssrc with what the line says about it.
`parse_ssrc_info` merges them by their ssrc and `create_track_from_ssrc_info` merges the
result by the track id. Both loops are a `Grouping`, so what they give is known from the
entries: `ssrcInfo_eq` has one entry for each ssrc, in the order of the first occurrences, and
`createTracks_eq` one track for each track id of these. Groups are attached at the end, and
`foldl_addSsrcGroup` says that each track gets the groups whose first ssrc it has.

`TracksPartition` is what follows for the tracks. `tracks_partition` states it for every text
that `set_remote_sdp` accepts, on any connection, and for the streams of every section of the
description that it leaves.
-/

set_option autoImplicit false

namespace Xrtc.Proofs.Pc

open Xrtc.Lib
open Xrtc.Ice (ascii)
open Xrtc.Pc

/-! ### What the lines of a section say -/

/-- What lines do in a section, given the media type of the last `m=` line before them. A line
counts for the section that is current after it, so an `m=` line counts for its own. -/
def sectionEffects (type : MediaType) : (mediaType : Bytes) → List Bytes → List SectionEffect
  | _, [] => []
  | mediaType, line :: lines =>
      match lineEffect mediaType line with
      | .error _ => []
      | .ok e =>
          let rest := sectionEffects type (afterMedia mediaType e.media) lines
          match e.current with
          | none => rest
          | some (type', effect) => if type' = type then effect :: rest else rest

/-- The `a=ssrc` lines of a section, as ssrcs with an attribute. -/
def ssrcEntries (type : MediaType) (lines : List Bytes) : List (UInt32 × SsrcAttribute) :=
  (sectionEffects type [] lines).filterMap SectionEffect.ssrc

/-- The ssrc groups of a section. -/
def parsedGroups (type : MediaType) (lines : List Bytes) : List SsrcGroup :=
  (sectionEffects type [] lines).filterMap SectionEffect.group

/-- The track id that an attribute gives, which only an `msid` with two fields does. -/
def givenTrackId : SsrcAttribute → Option Bytes
  | .msid _ trackId => trackId
  | _ => none

/-- The last track id that is given for an ssrc, or the empty one. -/
def lastTrackId (entries : List (UInt32 × SsrcAttribute)) (ssrc : UInt32) : Bytes :=
  (((entries.filter fun e => e.1 = ssrc).filterMap fun e => givenTrackId e.2).getLast?).getD []

/-- The ssrcs in the order in which they occur first. -/
def firstSsrcs (entries : List (UInt32 × SsrcAttribute)) : List UInt32 :=
  firsts (entries.map Prod.fst)

/-- The first ssrc of a group is one of the track. -/
def startsIn (track : StreamParams) (group : SsrcGroup) : Bool :=
  group.ssrcs.head?.any track.hasSsrc

/-- What the tracks of a section are, given its `a=ssrc` lines and its groups:

- `distinct`: no two tracks have the same id;
- `once`: an ssrc of the lines is in one track, once, and in no other track;
- `only`: nothing else is in a track;
- `trackOrder`, `ssrcOrder`: the tracks, and the ssrcs of each of them, are in the order of the
  first occurrences in the lines;
- `trackId`: an ssrc is in the track with the last track id that is given for it;
- `groups`: a track has the groups whose first ssrc is in it, in their order. -/
structure TracksPartition (entries : List (UInt32 × SsrcAttribute)) (groups : List SsrcGroup)
    (tracks : List StreamParams) : Prop where
  distinct : (tracks.map StreamParams.id).Nodup
  once : ∀ ssrc ∈ entries.map Prod.fst, ∃ track ∈ tracks, track.ssrcs.count ssrc = 1 ∧
    ∀ track' ∈ tracks, ssrc ∈ track'.ssrcs → track' = track
  only : ∀ track ∈ tracks, ∀ ssrc ∈ track.ssrcs, ssrc ∈ entries.map Prod.fst
  trackOrder : tracks.map StreamParams.id
    = firsts ((firstSsrcs entries).map (lastTrackId entries))
  ssrcOrder : ∀ track ∈ tracks, track.ssrcs.Sublist (firstSsrcs entries)
  trackId : ∀ track ∈ tracks, ∀ ssrc ∈ track.ssrcs, track.id = lastTrackId entries ssrc
  groups : ∀ track ∈ tracks, track.ssrcGroups = groups.filter (startsIn track)

/-! ### Merging by the ssrc -/

/-- `parse_ssrc_info` merges lines by their ssrc. -/
def ssrcGrouping : Grouping (UInt32 × SsrcAttribute) UInt32 SsrcInfo where
  key := Prod.fst
  groupKey := SsrcInfo.ssrcId
  start ssrcId := { ssrcId }
  add info e := info.set e.2
  groupKey_start _ := rfl
  groupKey_add info e := by
    cases e.2 <;> rfl

/-- To set an attribute of a stream is to insert it in the group of its SSRC. -/
theorem setSsrcInfo_eq (e : UInt32 × SsrcAttribute) (infos : List SsrcInfo) :
    setSsrcInfo e.1 e.2 infos = ssrcGrouping.insert e infos := by
  induction infos with
  | nil => rfl
  | cons info infos ih =>
      rw [setSsrcInfo, Grouping.insert, ih]
      rfl

/-- The track id of an ssrc is the last one given for it. -/
theorem trackId_foldl (entries : List (UInt32 × SsrcAttribute)) (info : SsrcInfo) :
    (entries.foldl ssrcGrouping.add info).trackId
      = ((entries.filterMap fun e => givenTrackId e.2).getLast?).getD info.trackId := by
  induction entries generalizing info with
  | nil => rfl
  | cons e entries ih =>
      rw [List.foldl_cons, ih, List.filterMap_cons]
      have hadd : (ssrcGrouping.add info e).trackId = (givenTrackId e.2).getD info.trackId := by
        show (info.set e.2).trackId = _
        cases e.2 <;> rfl
      rw [hadd]
      cases givenTrackId e.2 with
      | none => rfl
      | some trackId =>
          rw [List.getLast?_cons]
          cases (entries.filterMap fun e => givenTrackId e.2).getLast? <;> rfl

/-- The last `msid` line of a stream names its track. -/
theorem trackId_group (entries : List (UInt32 × SsrcAttribute)) (ssrc : UInt32) :
    (ssrcGrouping.group entries ssrc).trackId = lastTrackId entries ssrc :=
  trackId_foldl _ _

/-! ### Merging by the track id -/

/-- `create_track_from_ssrc_info` merges ssrcs by their track id. -/
def trackGrouping : Grouping SsrcInfo Bytes StreamParams where
  key := SsrcInfo.trackId
  groupKey := StreamParams.id
  start id := { id }
  add track info :=
    { track with
        cname := info.cname
        streamId := info.streamId
        ssrcs := track.ssrcs ++ [info.ssrcId] }
  groupKey_start _ := rfl
  groupKey_add _ _ := rfl

/-- To add a stream to its track is to insert it in the group of that name. -/
theorem addToTrack_eq (info : SsrcInfo) (tracks : List StreamParams) :
    addToTrack info tracks = trackGrouping.insert info tracks := by
  induction tracks with
  | nil => rfl
  | cons track tracks ih =>
      rw [addToTrack, Grouping.insert, ih]
      rfl

/-- A track has the ssrcs that were merged into it, and no groups yet. -/
theorem foldl_trackGrouping (infos : List SsrcInfo) (track : StreamParams) :
    (infos.foldl trackGrouping.add track).ssrcs = track.ssrcs ++ infos.map SsrcInfo.ssrcId ∧
      (infos.foldl trackGrouping.add track).ssrcGroups = track.ssrcGroups := by
  induction infos generalizing track with
  | nil => exact ⟨(List.append_nil _).symm, rfl⟩
  | cons info infos ih =>
      obtain ⟨hssrcs, hgroups⟩ := ih (trackGrouping.add track info)
      rw [List.foldl_cons, hssrcs, hgroups, List.map_cons]
      exact ⟨List.append_assoc _ [info.ssrcId] _, rfl⟩

/-! ### The tracks without groups -/

section

variable (entries : List (UInt32 × SsrcAttribute))

/-- The information about the ssrcs: one entry for each of them. -/
theorem ssrcInfo_eq : ssrcGrouping.collect entries
    = (firstSsrcs entries).map (ssrcGrouping.group entries) :=
  ssrcGrouping.collect_eq entries

/-- The track of an id has the ssrcs with this track id, in order. -/
theorem ssrcs_group (id : Bytes) :
    (trackGrouping.group (ssrcGrouping.collect entries) id).ssrcs
      = (firstSsrcs entries).filter fun ssrc => lastTrackId entries ssrc = id := by
  rw [Grouping.group, (foldl_trackGrouping _ _).1, ssrcInfo_eq, List.filter_map, List.map_map]
  show [] ++ _ = _
  rw [List.nil_append]
  have hid : (SsrcInfo.ssrcId ∘ ssrcGrouping.group entries) = fun ssrc => ssrc :=
    funext (ssrcGrouping.groupKey_group entries)
  rw [hid, List.map_id']
  refine List.filter_congr fun ssrc _ => ?_
  show decide ((ssrcGrouping.group entries ssrc).trackId = id) = _
  rw [trackId_group]

/-- The tracks before the groups are attached: one for each track id. -/
theorem createTracks_eq : createTrackFromSsrcInfo (ssrcGrouping.collect entries)
    = (firsts ((firstSsrcs entries).map (lastTrackId entries))).map
        (trackGrouping.group (ssrcGrouping.collect entries)) := by
  have hcollect : createTrackFromSsrcInfo (ssrcGrouping.collect entries)
      = trackGrouping.collect (ssrcGrouping.collect entries) := by
    rw [createTrackFromSsrcInfo, Grouping.collect]
    congr 1
    exact funext fun tracks => funext fun info => addToTrack_eq info tracks
  have hkeys : (ssrcGrouping.collect entries).map trackGrouping.key
      = (firstSsrcs entries).map (lastTrackId entries) := by
    rw [ssrcInfo_eq, List.map_map]
    exact List.map_congr_left fun ssrc _ => trackId_group entries ssrc
  rw [hcollect, trackGrouping.collect_eq, hkeys]

/-! ### The groups -/

/-- A track with groups attached. -/
def attach (groups : List SsrcGroup) (track : StreamParams) : StreamParams :=
  { track with ssrcGroups := track.ssrcGroups ++ groups.filter (startsIn track) }

/-- A group goes to each track that the test of the source accepts for it. -/
theorem addSsrcGroup_eq (tracks : List StreamParams) (group : SsrcGroup) :
    addSsrcGroup tracks group = tracks.map (attach [group]) := by
  have hone : ∀ track, attach [group] track
      = if startsIn track group then { track with ssrcGroups := track.ssrcGroups ++ [group] }
        else track := by
    intro track
    rw [attach, List.filter_cons]
    split_ifs
    · rfl
    · rw [List.filter_nil, List.append_nil]
  rw [addSsrcGroup]
  cases hssrcs : group.ssrcs with
  | nil =>
      -- a group without an ssrc starts in no track
      have hnone : ∀ track, startsIn track group = false := by
        intro track
        rw [startsIn, hssrcs]
        rfl
      refine (List.map_id _).symm.trans (List.map_congr_left fun track _ => ?_)
      rw [hone, hnone]
      rfl
  | cons ssrc ssrcs =>
      refine List.map_congr_left fun track _ => ?_
      have hstarts : startsIn track group = track.hasSsrc ssrc := by
        rw [startsIn, hssrcs]
        rfl
      rw [hone, hstarts]

/-- Every track gets the groups that start in it. -/
theorem foldl_addSsrcGroup (groups : List SsrcGroup) (tracks : List StreamParams) :
    groups.foldl addSsrcGroup tracks = tracks.map (attach groups) := by
  induction groups generalizing tracks with
  | nil =>
      refine (List.map_id _).symm.trans (List.map_congr_left fun track _ => ?_)
      rw [attach, List.filter_nil, List.append_nil]
      rfl
  | cons group groups ih =>
      rw [List.foldl_cons, ih, addSsrcGroup_eq, List.map_map]
      refine List.map_congr_left fun track _ => ?_
      have hgroups : (track.ssrcGroups ++ [group].filter (startsIn track)) ++
          groups.filter (startsIn track)
            = track.ssrcGroups ++ (group :: groups).filter (startsIn track) := by
        rw [List.append_assoc, ← List.filter_append]
        rfl
      -- the ssrcs of a track stay, so it does not matter when a group is attached
      exact congrArg (fun ssrcGroups => { track with ssrcGroups }) hgroups

/-! ### The partition -/

/-- The track of an id, with its groups. -/
def trackOf (groups : List SsrcGroup) (id : Bytes) : StreamParams :=
  attach groups (trackGrouping.group (ssrcGrouping.collect entries) id)

/-- There is one track for each track id. -/
theorem tracks_eq (groups : List SsrcGroup) :
    groups.foldl addSsrcGroup (createTrackFromSsrcInfo (ssrcGrouping.collect entries))
      = (firsts ((firstSsrcs entries).map (lastTrackId entries))).map (trackOf entries groups) := by
  rw [foldl_addSsrcGroup, createTracks_eq, List.map_map]
  rfl

section

variable (groups : List SsrcGroup) (id : Bytes)

/-- A track has the name of its group. -/
theorem id_trackOf : (trackOf entries groups id).id = id := trackGrouping.groupKey_group _ id

/-- Its streams are those whose last name this is, in the order they were first mentioned in. -/
theorem ssrcs_trackOf : (trackOf entries groups id).ssrcs
    = (firstSsrcs entries).filter fun ssrc => lastTrackId entries ssrc = id :=
  ssrcs_group entries id

/-- A track has the ssrcs of the lines with its track id. -/
theorem mem_ssrcs_trackOf {ssrc : UInt32} : ssrc ∈ (trackOf entries groups id).ssrcs ↔
    ssrc ∈ firstSsrcs entries ∧ lastTrackId entries ssrc = id := by
  rw [ssrcs_trackOf, List.mem_filter, decide_eq_true_eq]

/-- Its groups are those that start with a stream of it. -/
theorem ssrcGroups_trackOf : (trackOf entries groups id).ssrcGroups
    = groups.filter (startsIn (trackOf entries groups id)) := by
  show (trackGrouping.group _ id).ssrcGroups ++ _ = _
  rw [Grouping.group, (foldl_trackGrouping _ _).2]
  rfl

/-- An ssrc of the lines is in the track with its track id, and in no other one. -/
theorem exists_trackOf {ssrc : UInt32} (hssrc : ssrc ∈ firstSsrcs entries) {ids : List Bytes}
    (hid : lastTrackId entries ssrc ∈ ids) :
    ∃ track ∈ ids.map (trackOf entries groups), track.ssrcs.count ssrc = 1 ∧
      ∀ track' ∈ ids.map (trackOf entries groups), ssrc ∈ track'.ssrcs → track' = track := by
  refine ⟨_, List.mem_map_of_mem hid, ?_, ?_⟩
  · have hmem := (mem_ssrcs_trackOf entries groups _).mpr ⟨hssrc, rfl⟩
    rw [ssrcs_trackOf] at hmem ⊢
    exact List.count_eq_one_of_mem ((nodup_firsts _).filter _) hmem
  · -- a track that has the ssrc has its track id
    intro track' htrack' hin
    obtain ⟨id, -, rfl⟩ := List.mem_map.mp htrack'
    rw [((mem_ssrcs_trackOf entries groups id).mp hin).2]

end

/-- The tracks partition the streams, from the two groupings one on top of the other. -/
theorem partition_tracks (groups : List SsrcGroup) :
    TracksPartition entries groups
      (groups.foldl addSsrcGroup
        (createTrackFromSsrcInfo (ssrcGrouping.collect entries))) := by
  rw [tracks_eq]
  generalize hids : firsts ((firstSsrcs entries).map (lastTrackId entries)) = ids
  -- the tracks are made of the names, one for each
  have hmap : (ids.map (trackOf entries groups)).map StreamParams.id = ids := by
    rw [List.map_map]
    exact (List.map_congr_left fun id _ => id_trackOf entries groups id).trans (List.map_id _)
  constructor
  · rw [hmap, ← hids]
    exact nodup_firsts _
  · intro ssrc hssrc
    have hfirst : ssrc ∈ firstSsrcs entries := mem_firsts.mpr hssrc
    refine exists_trackOf entries groups hfirst ?_
    rw [← hids, mem_firsts]
    exact List.mem_map_of_mem hfirst
  · intro track htrack ssrc hin
    obtain ⟨id, -, rfl⟩ := List.mem_map.mp htrack
    exact mem_firsts.mp ((mem_ssrcs_trackOf entries groups id).mp hin).1
  · rw [hmap, hids]
  · intro track htrack
    obtain ⟨id, -, rfl⟩ := List.mem_map.mp htrack
    rw [ssrcs_trackOf]
    exact List.filter_sublist
  · intro track htrack ssrc hin
    obtain ⟨id, -, rfl⟩ := List.mem_map.mp htrack
    rw [id_trackOf, ((mem_ssrcs_trackOf entries groups id).mp hin).2]
  · intro track htrack
    obtain ⟨id, -, rfl⟩ := List.mem_map.mp htrack
    exact ssrcGroups_trackOf entries groups id

end

/-! ### The text -/

/-- A line of the description changes no ssrc and no group. -/
theorem applyMedia_section (s : RemoteSdp) (e : MediaEffect) (type : MediaType) :
    (sectionAt (applyMedia s e) type).ssrcInfo = (sectionAt s type).ssrcInfo ∧
      (sectionAt (applyMedia s e) type).ssrcGroups = (sectionAt s type).ssrcGroups := by
  cases e with
  | nothing => exact ⟨rfl, rfl⟩
  | group g => cases type <;> exact ⟨rfl, rfl⟩
  | enter mediaType =>
      show (sectionAt (s.enter mediaType) type).ssrcInfo = _ ∧
        (sectionAt (s.enter mediaType) type).ssrcGroups = _
      rw [enter_eq]
      cases sectionType mediaType with
      | none => cases type <;> exact ⟨rfl, rfl⟩
      | some type' => cases type' <;> cases type <;> exact ⟨rfl, rfl⟩

/-- The ssrcs and groups of a section after lines: those of the lines are merged in. -/
theorem parseLines_section {s s' : RemoteSdp} (lines : List Bytes)
    (h : s.parseLines lines = .ok s') (type : MediaType) :
    (sectionAt s' type).ssrcInfo
        = ((sectionEffects type s.mediaType lines).filterMap SectionEffect.ssrc).foldl
            (fun infos e => ssrcGrouping.insert e infos) (sectionAt s type).ssrcInfo ∧
      (sectionAt s' type).ssrcGroups
        = (sectionAt s type).ssrcGroups ++
            (sectionEffects type s.mediaType lines).filterMap SectionEffect.group := by
  -- on the lines, from any local objects
  induction lines generalizing s with
  | nil =>
      cases h
      exact ⟨rfl, (List.append_nil _).symm⟩
  | cons line lines ih =>
      cases he : lineEffect s.mediaType line with
      | error failure =>
          obtain ⟨media, herror⟩ := parseLines_of_error he lines
          rw [herror] at h
          cases h
      | ok e =>
          rw [parseLines_of_ok he] at h
          obtain ⟨hinfo, hgroups⟩ := ih h
          obtain ⟨hinfo', hgroups'⟩ := applyMedia_section s e.media type
          rw [hinfo, hgroups, sectionEffects, he, applyLine_mediaType, applyLine]
          dsimp only
          cases e.current with
          | none =>
              dsimp only
              rw [hinfo', hgroups']
              exact ⟨rfl, rfl⟩
          | some current =>
              obtain ⟨type', effect⟩ := current
              dsimp only
              rw [sectionAt_setSection]
              by_cases htype : type = type'
              · -- the line is in this section, and is merged in first
                subst htype
                rw [if_pos rfl, if_pos rfl, List.filterMap_cons, List.filterMap_cons]
                show _ ∧ ((sectionAt (applyMedia s e.media) type).ssrcGroups ++ effect.group.toList)
                    ++ _ = _
                rw [hgroups', List.append_assoc, applySection]
                dsimp only
                rw [hinfo']
                constructor
                · cases effect.ssrc with
                  | none => rfl
                  | some entry =>
                      dsimp only
                      rw [List.foldl_cons, setSsrcInfo_eq entry]
                · cases effect.group <;> rfl
              · rw [if_neg htype, if_neg (fun heq => htype heq.symm), hinfo', hgroups']
                exact ⟨rfl, rfl⟩

/-- The tracks of a section, from the lines of the text. -/
theorem tracks_parseLines {s : RemoteSdp} {lines : List Bytes}
    (h : RemoteSdp.parseLines {} lines = .ok s) (type : MediaType) :
    TracksPartition (ssrcEntries type lines) (parsedGroups type lines)
      (sectionAt s type).tracks := by
  obtain ⟨hinfo, hgroups⟩ := parseLines_section lines h type
  have hinfo : (sectionAt s type).ssrcInfo = ssrcGrouping.collect (ssrcEntries type lines) := by
    rw [hinfo]
    cases type <;> rfl
  have hgroups : (sectionAt s type).ssrcGroups = parsedGroups type lines := by
    rw [hgroups]
    cases type <;> rfl
  rw [RemoteSection.tracks, hinfo, hgroups]
  exact partition_tracks _ _

/-- The tracks of every section of an accepted answer are a partition of the ssrcs that its lines
name, each under the last track that was named for it. Lines may come in any order, and those of
several streams in turns. -/
theorem tracks_partition (ssl : SslAdapter) (pc pc' : PeerConnection) (sdp : Bytes)
    (h : pc.setRemoteSdp ssl sdp = .returns 0 pc') :
    ∃ desc, pc'.remoteDesc = some desc ∧ ∀ content ∈ desc.contents,
      TracksPartition (ssrcEntries content.type (sdpFields sdp))
        (parsedGroups content.type (sdpFields sdp)) content.sendStreams := by
  unfold PeerConnection.setRemoteSdp at h
  split at h
  · cases h
  · cases hparse : RemoteSdp.parseLines {} (sdpFields sdp) with
    | error e =>
        rw [hparse] at h
        rcases e with ⟨_ | _, s⟩ <;> cases h
    | ok s =>
        rw [hparse] at h
        dsimp only at h
        split at h
        · cases h
        · cases h
          refine ⟨s.description, rfl, ?_⟩
          intro content hcontent
          obtain ⟨type, -, rfl⟩ := List.mem_map.mp hcontent
          have htracks := tracks_parseLines hparse type
          cases type <;> exact htracks

/-- An answer with lines about three ssrcs of a video section, two of them in one track. -/
def interleavedAnswer : Bytes :=
  ascii "m=audio 9 X\na=fingerprint:sha-256 01\na=ssrc:5 msid:s a\nm=video 9 X\n" ++
    ascii "a=ssrc-group:FID 7 8\na=ssrc:7 cname:c\na=ssrc:9 cname:c\na=ssrc:8 msid:s t\n" ++
    ascii "a=ssrc:7 msid:s t\n"

/-- What `set_remote_sdp` has parsed at the end of it. -/
def interleavedSdp : RemoteSdp where
  contents := [.audio, .video]
  mediaType := ascii "video"
  audio :=
    { td := { mid := ascii "audio", identityFingerprint := some ⟨ascii "sha-256", [1]⟩ }
      ssrcInfo := [{ ssrcId := 5, streamId := ascii "s", trackId := ascii "a" }] }
  video :=
    { td := { mid := ascii "video" }
      ssrcInfo :=
        [{ ssrcId := 7, cname := ascii "c", streamId := ascii "s", trackId := ascii "t" },
          { ssrcId := 9, cname := ascii "c" },
          { ssrcId := 8, streamId := ascii "s", trackId := ascii "t" }]
      ssrcGroups := [⟨ascii "FID", [7, 8]⟩] }

/-- An answer with the attributes of its streams in turns. -/
theorem interleavedAnswer_partition :
    ∃ pc' desc, offering.setRemoteSdp quietAdapter interleavedAnswer = .returns 0 pc' ∧
      pc'.remoteDesc = some desc ∧ ∀ content ∈ desc.contents,
        TracksPartition (ssrcEntries content.type (sdpFields interleavedAnswer))
          (parsedGroups content.type (sdpFields interleavedAnswer)) content.sendStreams := by
  have hparse : RemoteSdp.parseLines {} (sdpFields interleavedAnswer) = .ok interleavedSdp := by
    decide +kernel
  have hfields : ¬ sdpFields interleavedAnswer = [] := by decide +kernel
  have hset : (offering.transportController.setRemoteDescription quietAdapter
      interleavedSdp.description).isSome := by decide +kernel
  obtain ⟨transportController, hset⟩ := Option.isSome_iff_exists.mp hset
  have h : offering.setRemoteSdp quietAdapter interleavedAnswer = .returns 0
      { offering with
          remoteDesc := some interleavedSdp.description
          transportController } := by
    unfold PeerConnection.setRemoteSdp
    rw [if_neg hfields, hparse]
    dsimp only
    rw [hset]
  obtain ⟨desc, hdesc, htracks⟩ := tracks_partition quietAdapter offering _ _ h
  exact ⟨_, desc, h, hdesc, htracks⟩

/-- The track without an id is the second one: its ssrc occurs behind the first of the other. -/
example : interleavedSdp.video.tracks.map (fun track => (track.id, track.ssrcs, track.ssrcGroups))
    = [(ascii "t", [7, 8], [⟨ascii "FID", [7, 8]⟩]), ([], [9], [])] := by decide +kernel

end Xrtc.Proofs.Pc
