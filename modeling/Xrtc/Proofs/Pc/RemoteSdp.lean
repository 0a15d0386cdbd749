import Xrtc.Pc.PeerConnection

/-!
# `Xrtc.Proofs.Pc.RemoteSdp`: what a line does to an answer

What `set_remote_sdp` does with a line depends on the line and on the current section, and
on nothing else that was parsed before. So a line has an effect of its own: on the
description (`mediaEffect`) and, in a section, on the local objects of the section
(`sectionEffect`). `parseMediaLine_eq` and `parseSectionLine_eq` say that the loop body
applies the effects of the line, or fails as they do.

Together they are the effect of the line (`lineEffect`), given the media type of the last
`m=` line before it. `parseLines_of_ok` and `parseLines_of_error` are the equations of the
loop in these terms.
-/

set_option autoImplicit false

namespace Xrtc.Proofs.Pc

open Xrtc.Base
open Xrtc.Lib
open Xrtc.Ice (ascii colon split)
open Xrtc.Pc

/-! ### Fallible steps -/

section Except

variable {ε α β : Type}

/-- A computation succeeds if its first part does and then the second. -/
theorem bind_eq_ok {x : Except ε α} {f : α → Except ε β} {b : β} :
    x >>= f = .ok b ↔ ∃ a, x = .ok a ∧ f a = .ok b := by
  cases x <;> simp [bind, Except.bind]

/-- It fails if its first part fails, or the second one behind it. -/
theorem bind_eq_error {x : Except ε α} {f : α → Except ε β} {e : ε} :
    x >>= f = .error e ↔ x = .error e ∨ ∃ a, x = .ok a ∧ f a = .error e := by
  cases x <;> simp [bind, Except.bind]

/-- A value that must be there is there. -/
theorem orElse_eq_ok {failure : Failure} {x : Option α} {a : α} :
    orElse failure x = .ok a ↔ x = some a := by
  cases x <;> simp [orElse]

/-- A value that must be there is missing. -/
theorem orElse_eq_error {failure failure' : Failure} {x : Option α} :
    orElse failure x = .error failure' ↔ x = none ∧ failure = failure' := by
  cases x <;> simp [orElse]

end Except

/-- `find` finds a pattern exactly if it stands somewhere in the text. -/
theorem contains_iff {pattern text : Bytes} : contains pattern text = true ↔ pattern <:+: text :=
  decide_eq_true_iff

/-! ### Effects on the description -/

/-- What a line does to the groups and the sections. -/
inductive MediaEffect where
  | nothing
  | group (g : ContentGroup)
  | enter (mediaType : Bytes)
  deriving DecidableEq, Repr

/-- What a line does in the first part of the loop body: a line of a BUNDLE group, an `m=` line,
or neither. -/
def mediaEffect (line : Bytes) : Except Failure MediaEffect :=
  if contains (ascii "m=group:BUNDLE") line then
    match split space [] line with
    | _ :: name :: names =>
        .ok (.group ((name :: names).foldl ContentGroup.addContentName ⟨ascii "BUNDLE", []⟩))
    | _ => .ok .nothing
  else if contains (ascii "m=") line then
    match split space [] line with
    | item :: _ :: _ :: _ => (orElse .outOfRange (substr item 2)).map .enter
    | _ => .error .rejected
  else .ok .nothing

/-- The effect applied. -/
def applyMedia (s : RemoteSdp) : MediaEffect → RemoteSdp
  | .nothing => s
  | .group g => { s with contentGroups := s.contentGroups ++ [g] }
  | .enter mediaType => s.enter mediaType

/-- The first part of the loop body is what the line does, applied to the local objects. The line
alone says whether it fails. -/
theorem parseMediaLine_eq (s : RemoteSdp) (line : Bytes) :
    s.parseMediaLine line = (mediaEffect line).map (applyMedia s) := by
  unfold RemoteSdp.parseMediaLine mediaEffect
  rcases split space [] line with _ | ⟨item, _ | ⟨name, _ | ⟨name', names⟩⟩⟩
  case cons.cons.cons =>
    dsimp only
    cases orElse .outOfRange (substr item 2) <;> split_ifs <;> rfl
  all_goals split_ifs <;> rfl

/-! ### Effects in a section -/

/-- What a line does to the transport of its section. -/
inductive TransportEffect where
  | nothing
  | iceUfrag (value : Bytes)
  | icePwd (value : Bytes)
  | fingerprint (fp : SSLFingerprint)
  deriving DecidableEq, Repr

/-- What a line says about the transport of its section. The first of the three keys that is found
decides. -/
def transportEffect (line : Bytes) : Except Failure TransportEffect :=
  if contains (ascii "a=ice-ufrag") line then (nonEmpty (getAttribute line)).map .iceUfrag
  else if contains (ascii "a=ice-pwd") line then (nonEmpty (getAttribute line)).map .icePwd
  else if contains (ascii "a=fingerprint") line then
    match tokenize space [] line with
    | [item, content] => do
        let alg ← orElse .outOfRange (substr item 14)
        let fp ← orElse .rejected
          (SSLFingerprint.createUniqueFromRfc4572 (alg.map toLower) content)
        return .fingerprint fp
    | _ => .error .rejected
  else .ok .nothing

/-- The effect applied. -/
def applyTransport (td : TransportDescription) : TransportEffect → TransportDescription
  | .nothing => td
  | .iceUfrag iceUfrag => { td with iceUfrag }
  | .icePwd icePwd => { td with icePwd }
  | .fingerprint fp => { td with identityFingerprint := some fp }

/-- The group that a line adds. -/
def ssrcGroupEffect (line : Bytes) : Except Failure (Option SsrcGroup) :=
  if contains (ascii "a=ssrc-group:") line then
    (orElse .rejected (parseSsrcGroup line)).map some
  else .ok none

/-- Groups are looked for in the video section only. -/
def videoGroupEffect (type : MediaType) (line : Bytes) : Except Failure (Option SsrcGroup) :=
  if type = .video then ssrcGroupEffect line else .ok none

/-- What a line says about an ssrc. -/
def ssrcEffect (line : Bytes) : Except Failure (Option (UInt32 × SsrcAttribute)) :=
  if contains (ascii "a=ssrc:") line then do
    let (ssrcId, field2) ← parseSsrcId line
    let (attr, value) ← orElse .rejected (tokenizeFirst colon field2)
    let attr ← parseSsrcAttribute attr value
    return some (ssrcId, attr)
  else .ok none

/-- What a line does to the local objects of its section. -/
structure SectionEffect where
  transport : TransportEffect := .nothing
  group : Option SsrcGroup := none
  ssrc : Option (UInt32 × SsrcAttribute) := none
  deriving DecidableEq, Repr

/-- What a line does in a section: the three calls, one after the other. -/
def sectionEffect (type : MediaType) (line : Bytes) : Except Failure SectionEffect := do
  let transport ← transportEffect line
  let group ← videoGroupEffect type line
  let ssrc ← ssrcEffect line
  return { transport, group, ssrc }

/-- The effect applied. -/
def applySection (s : RemoteSection) (e : SectionEffect) : RemoteSection where
  td := applyTransport s.td e.transport
  ssrcGroups := s.ssrcGroups ++ e.group.toList
  ssrcInfo :=
    match e.ssrc with
    | none => s.ssrcInfo
    | some (ssrcId, attr) => setSsrcInfo ssrcId attr s.ssrcInfo

/-- `parse_transport_info` is what the line says, applied to the transport. -/
theorem parseTransportInfo_eq (td : TransportDescription) (line : Bytes) :
    parseTransportInfo td line = (transportEffect line).map (applyTransport td) := by
  unfold parseTransportInfo transportEffect
  split
  · cases nonEmpty (getAttribute line) <;> rfl
  · split
    · cases nonEmpty (getAttribute line) <;> rfl
    · split
      · rcases tokenize space [] line with _ | ⟨item, _ | ⟨content, _ | _⟩⟩
        case cons.cons.nil =>
          dsimp only
          cases orElse .outOfRange (substr item 14) with
          | error e => rfl
          | ok alg =>
              dsimp only [bind, Except.bind]
              cases orElse .rejected
                (SSLFingerprint.createUniqueFromRfc4572 (alg.map toLower) content) <;> rfl
        all_goals rfl
      · rfl

/-- `parse_ssrc_group_info` adds the group of the line, if there is one. -/
theorem parseSsrcGroupInfo_eq (groups : List SsrcGroup) (line : Bytes) :
    parseSsrcGroupInfo groups line
      = (ssrcGroupEffect line).map fun g => groups ++ g.toList := by
  unfold parseSsrcGroupInfo ssrcGroupEffect
  split
  · cases orElse .rejected (parseSsrcGroup line) <;> rfl
  · simp [Except.map]

/-- `parse_ssrc_info` sets the attribute of the line, if there is one. -/
theorem parseSsrcInfo_eq (infos : List SsrcInfo) (line : Bytes) :
    parseSsrcInfo infos line
      = (ssrcEffect line).map fun
          | none => infos
          | some (ssrcId, attr) => setSsrcInfo ssrcId attr infos := by
  unfold parseSsrcInfo ssrcEffect
  split
  · cases parseSsrcId line with
    | error e => rfl
    | ok r =>
        obtain ⟨ssrcId, field2⟩ := r
        dsimp only [bind, Except.bind]
        cases orElse .rejected (tokenizeFirst colon field2) with
        | error e => rfl
        | ok r =>
            obtain ⟨attr, value⟩ := r
            dsimp only
            cases parseSsrcAttribute attr value <;> rfl
  · rfl

/-- The calls for a line in a section are what the line does, applied to the section. -/
theorem parseLine_eq (type : MediaType) (s : RemoteSection) (line : Bytes) :
    s.parseLine type line = (sectionEffect type line).map (applySection s) := by
  unfold RemoteSection.parseLine sectionEffect videoGroupEffect
  rw [parseTransportInfo_eq, parseSsrcGroupInfo_eq, parseSsrcInfo_eq]
  cases transportEffect line with
  | error e => rfl
  | ok transport =>
      cases type with
      | audio =>
          cases ssrcEffect line with
          | error e => rfl
          | ok ssrc =>
              rcases ssrc with _ | ⟨ssrcId, attr⟩ <;>
                simp [bind, Except.bind, Except.map, pure, Except.pure, applySection]
      | video =>
          cases ssrcGroupEffect line with
          | error e => rfl
          | ok group =>
              cases ssrcEffect line with
              | error e => rfl
              | ok ssrc => rcases ssrc with _ | ⟨ssrcId, attr⟩ <;> rfl

/-! ### The current section -/

/-- The section that an `m=` line with this media type starts. -/
def sectionType (mediaType : Bytes) : Option MediaType :=
  if ascii "audio" = mediaType then some .audio
  else if ascii "video" = mediaType then some .video
  else none

/-- The local objects of a section, and a change of them. -/
def sectionAt (s : RemoteSdp) : MediaType → RemoteSection
  | .audio => s.audio
  | .video => s.video

/-- The local objects of a section are replaced. -/
def setSection (s : RemoteSdp) (type : MediaType) (sec : RemoteSection) : RemoteSdp :=
  match type with
  | .audio => { s with audio := sec }
  | .video => { s with video := sec }

/-- The effect of a line in the current section, if there is one. -/
def applyCurrent (s : RemoteSdp) (line : Bytes) : Except Failure RemoteSdp :=
  match sectionType s.mediaType with
  | none => .ok s
  | some type =>
      (sectionEffect type line).map fun e => setSection s type (applySection (sectionAt s type) e)

/-- The second part of the loop body applies the line to the current section. -/
theorem parseSectionLine_eq (s : RemoteSdp) (line : Bytes) :
    s.parseSectionLine line = applyCurrent s line := by
  unfold RemoteSdp.parseSectionLine applyCurrent sectionType
  by_cases haudio : ascii "audio" = s.mediaType
  · rw [if_pos haudio, if_pos haudio]
    dsimp only
    rw [parseLine_eq]
    cases sectionEffect .audio line <;> rfl
  · rw [if_neg haudio, if_neg haudio]
    by_cases hvideo : ascii "video" = s.mediaType
    · rw [if_pos hvideo, if_pos hvideo]
      dsimp only
      rw [parseLine_eq]
      cases sectionEffect .video line <;> rfl
    · rw [if_neg hvideo, if_neg hvideo]

/-- A section is found by its name. -/
theorem sectionType_mid (type : MediaType) : sectionType type.mid = some type := by
  cases type <;> decide +kernel

/-! ### The loop -/

/-- What a line does. -/
structure LineEffect where
  media : MediaEffect := .nothing
  current : Option (MediaType × SectionEffect) := none
  deriving DecidableEq, Repr

/-- The media type after a line. -/
def afterMedia (mediaType : Bytes) : MediaEffect → Bytes
  | .enter mediaType' => mediaType'
  | _ => mediaType

/-- What a line does, given the section in front of it. An `m=` line is looked at again in the
section that it has begun. -/
def lineEffect (mediaType line : Bytes) : Except Failure LineEffect := do
  let media ← mediaEffect line
  match sectionType (afterMedia mediaType media) with
  | none => return { media }
  | some type => do
      let e ← sectionEffect type line
      return { media, current := some (type, e) }

/-- The effect applied. -/
def applyLine (s : RemoteSdp) (e : LineEffect) : RemoteSdp :=
  let s := applyMedia s e.media
  match e.current with
  | none => s
  | some (type, e) => setSection s type (applySection (sectionAt s type) e)

/-- The current section stays the same one. -/
@[simp] theorem setSection_mediaType (s : RemoteSdp) (type : MediaType) (sec : RemoteSection) :
    (setSection s type sec).mediaType = s.mediaType := by
  cases type <;> rfl

/-- No section is added. -/
@[simp] theorem setSection_contents (s : RemoteSdp) (type : MediaType) (sec : RemoteSection) :
    (setSection s type sec).contents = s.contents := by
  cases type <;> rfl

/-- No group is added. -/
@[simp] theorem setSection_contentGroups (s : RemoteSdp) (type : MediaType) (sec : RemoteSection) :
    (setSection s type sec).contentGroups = s.contentGroups := by
  cases type <;> rfl

/-- The current section behind the first part of the loop body. -/
theorem applyMedia_mediaType (s : RemoteSdp) (e : MediaEffect) :
    (applyMedia s e).mediaType = afterMedia s.mediaType e := by
  cases e with
  | nothing => rfl
  | group g => rfl
  | enter mediaType =>
      show (s.enter mediaType).mediaType = mediaType
      unfold RemoteSdp.enter
      dsimp only
      split_ifs <;> rfl

/-- The second part does not change which section is the current one. -/
theorem applyLine_mediaType (s : RemoteSdp) (e : LineEffect) :
    (applyLine s e).mediaType = afterMedia s.mediaType e.media := by
  unfold applyLine
  rcases e with ⟨media, _ | ⟨type, e⟩⟩
  · exact applyMedia_mediaType s media
  · exact (setSection_mediaType _ _ _).trans (applyMedia_mediaType s media)

/-- A line that has an effect is passed. -/
theorem parseLines_of_ok {s : RemoteSdp} {line : Bytes} {e : LineEffect}
    (h : lineEffect s.mediaType line = .ok e) (lines : List Bytes) :
    s.parseLines (line :: lines) = (applyLine s e).parseLines lines := by
  obtain ⟨media, hmedia, h⟩ := bind_eq_ok.mp h
  have hcurrent := applyMedia_mediaType s media
  rw [RemoteSdp.parseLines, parseMediaLine_eq, hmedia]
  show (Except.mapError _ ((applyMedia s media).parseSectionLine line) >>= _) = _
  rw [parseSectionLine_eq, applyCurrent, hcurrent]
  cases htype : sectionType (afterMedia s.mediaType media) with
  | none =>
      rw [htype] at h
      cases h
      rfl
  | some type =>
      rw [htype] at h
      obtain ⟨e', hsection, h⟩ := bind_eq_ok.mp h
      cases h
      dsimp only
      rw [hsection]
      rfl

/-- A line that fails ends the loop. The description is that before the line, or after the
first part of the loop body if this was passed. -/
theorem parseLines_of_failure {s : RemoteSdp} {line : Bytes} {failure : Failure}
    (h : lineEffect s.mediaType line = .error failure) (lines : List Bytes) :
    (mediaEffect line = .error failure ∧ s.parseLines (line :: lines) = .error (failure, s)) ∨
      ∃ e, mediaEffect line = .ok e ∧
        s.parseLines (line :: lines) = .error (failure, applyMedia s e) := by
  rw [RemoteSdp.parseLines, parseMediaLine_eq]
  rcases bind_eq_error.mp h with hmedia | ⟨media, hmedia, h⟩
  · rw [hmedia]
    exact .inl ⟨rfl, rfl⟩
  · refine .inr ⟨media, hmedia, ?_⟩
    have hcurrent := applyMedia_mediaType s media
    rw [hmedia]
    show (Except.mapError _ ((applyMedia s media).parseSectionLine line) >>= _) = _
    rw [parseSectionLine_eq, applyCurrent, hcurrent]
    cases htype : sectionType (afterMedia s.mediaType media) with
    | none =>
        rw [htype] at h
        cases h
    | some type =>
        rw [htype] at h
        rcases bind_eq_error.mp h with hsection | ⟨e', -, h⟩
        · dsimp only
          rw [hsection]
          rfl
        · cases h

/-- What was parsed when a line fails has only been changed by the first part of the loop
body. -/
theorem parseLines_of_error {s : RemoteSdp} {line : Bytes} {failure : Failure}
    (h : lineEffect s.mediaType line = .error failure) (lines : List Bytes) :
    ∃ e, s.parseLines (line :: lines) = .error (failure, applyMedia s e) := by
  rcases parseLines_of_failure h lines with ⟨-, herror⟩ | ⟨e, -, herror⟩
  · exact ⟨.nothing, herror⟩
  · exact ⟨e, herror⟩

end Xrtc.Proofs.Pc
