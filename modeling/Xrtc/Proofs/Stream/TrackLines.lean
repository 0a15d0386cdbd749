import Xrtc.Proofs.Pc.PrintedTracks
import Xrtc.Proofs.Sdk.AnswerParsed

/-!
# `Xrtc.Proofs.Stream.TrackLines`: the lines of tracks, one by one

The texts of a track come from an answer, so unlike the other texts of an offer they are not
of the server's own making. `set_remote_sdp` finds its keys anywhere in a line. The line of a
track has one at its beginning, and no other one if none is in the texts (`Harmless`): a key has
an equals sign, and the parts of a line that are the same for all tracks have none
(`infix_behind`).

`lineEffect_trackLines` says what is read of the lines of tracks.
-/

set_option autoImplicit false

namespace Xrtc.Proofs.Stream

open Xrtc.Base
open Xrtc.Lib
open Xrtc.Ice (ascii colon split)
open Xrtc.Pc
open Xrtc.Proofs.Base
open Xrtc.Proofs.Pc
open Xrtc.Proofs.Sdk (parseSsrcAttribute_msid)

/-! ### Keys inside a line -/

section Infix

variable {α : Type} {x : α} {key a b : List α}

/-- A key without the separator is a prefix of what is in front of it. -/
theorem prefix_of_append_cons (hx : x ∉ key) (h : key <+: a ++ x :: b) : key <+: a := by
  have hstart : a ++ [x] <+: a ++ x :: b := ⟨b, by simp⟩
  rcases List.prefix_or_prefix_of_prefix h hstart with h | h
  · rcases List.prefix_concat_iff.mp h with rfl | h
    · exact absurd (List.mem_append_right _ (List.mem_singleton_self x)) hx
    · exact h
  · exact absurd (h.subset (List.mem_append_right _ (List.mem_singleton_self x))) hx

/-- What does not have a separator stands before it or behind it. -/
theorem infix_append_cons (hx : x ∉ key) (h : key <:+: a ++ x :: b) : key <:+: a ∨ key <:+: b := by
  induction a with
  | nil =>
      rcases List.infix_cons_iff.mp h with h | h
      · exact .inl (prefix_of_append_cons (a := []) hx h).isInfix
      · exact .inr h
  | cons c a ih =>
      rcases List.infix_cons_iff.mp h with h | h
      · exact .inl (prefix_of_append_cons hx h).isInfix
      · exact (ih h).imp_left fun h => List.infix_cons h

/-- A key whose second character is not in the first part, and whose first one is not at the
end of it, stands in the second part. -/
theorem infix_behind {k : α} (hx : x ∉ a) (hlast : a.getLast? ≠ some k)
    (h : k :: x :: key <:+: a ++ b) : k :: x :: key <:+: b := by
  induction a with
  | nil => exact h
  | cons c a ih =>
      obtain ⟨hc, ha⟩ := not_or.mp (List.mem_cons.not.mp hx)
      rcases List.infix_cons_iff.mp h with h | h
      · obtain ⟨rfl, hrest⟩ := List.cons_prefix_cons.mp h
        cases a with
        | nil => exact absurd rfl hlast
        | cons c' a =>
            have heq : x = c' := (List.cons_prefix_cons.mp hrest).1
            exact absurd (heq ▸ List.mem_cons_self) ha
      · refine ih ha (fun hlast' => hlast ?_) h
        rw [List.getLast?_cons, hlast']
        rfl

end Infix

/-- The keys that are not about ssrcs. -/
def transportKeys : List Bytes :=
  [ascii "m=", ascii "a=ice-ufrag", ascii "a=ice-pwd", ascii "a=fingerprint"]

/-- The keys that are looked for in every line of a section, but that of an ssrc. -/
def lineKeys : List Bytes := transportKeys ++ [ascii "a=ssrc-group:"]

/-- None of them is in the text. -/
def Harmless (text : Bytes) : Prop := ∀ key ∈ lineKeys, ¬ key <:+: text

instance (text : Bytes) : Decidable (Harmless text) :=
  inferInstanceAs (Decidable (∀ _ ∈ _, _))

/-- The form of a key. -/
theorem lineKeys_spec : ∀ key ∈ lineKeys, space ∉ key ∧
    ∃ k rest, key = k :: equals :: rest ∧ (k = 0x6d ∨ k = 0x61) := by
  simp [lineKeys, transportKeys, ascii, space, equals]

/-- Harmless texts with a blank between them. -/
theorem harmless_blank {a b : Bytes} (ha : Harmless a) (hb : Harmless b) :
    Harmless (a ++ space :: b) := by
  intro key hkey hinfix
  obtain ⟨hspace, -⟩ := lineKeys_spec key hkey
  rcases infix_append_cons hspace hinfix with h | h
  · exact ha key hkey h
  · exact hb key hkey h

/-- A text without `=` is harmless. -/
theorem harmless_of_not_mem {text : Bytes} (h : equals ∉ text) : Harmless text := by
  intro key hkey hinfix
  obtain ⟨-, k, rest, rfl, -⟩ := lineKeys_spec key hkey
  exact h (List.IsInfix.subset hinfix (by simp))

/-- A key in an attribute stands at its beginning, or in the value behind `a`. -/
theorem prefix_of_infix {k : UInt8} {rest a value : Bytes} (hk : k ≠ equals) (ha : equals ∉ a)
    (hlast : a.getLast? ≠ some k) (hvalue : ¬ k :: equals :: rest <:+: value)
    (h : k :: equals :: rest <:+: ascii "a=" ++ (a ++ value)) :
    k :: equals :: rest <+: ascii "a=" ++ (a ++ value) := by
  have hstart : ascii "a=" = [0x61, equals] := by simp [ascii, equals]
  rw [hstart, List.cons_append, List.cons_append, List.nil_append] at h ⊢
  rcases List.infix_cons_iff.mp h with h | h
  · exact h
  · rcases List.infix_cons_iff.mp h with h | h
    · exact absurd (List.cons_prefix_cons.mp h).1 hk
    · exact absurd (infix_behind ha hlast h) hvalue

/-- So the name of an attribute decides which of the keys the line has. -/
theorem not_infix_attributeLine {name a value : Bytes} (ha : equals ∉ name ++ a)
    (hm : (name ++ a).getLast? ≠ some 0x6d) (hlast : (name ++ a).getLast? ≠ some 0x61)
    (hvalue : Harmless value) {key : Bytes} (hkey : key ∈ lineKeys)
    (hname : ¬ key <+: ascii "a=" ++ name) (hname' : ¬ ascii "a=" ++ name <+: key) :
    ¬ key <:+: ascii "a=" ++ (name ++ a ++ value) := by
  intro h
  obtain ⟨-, k, rest, rfl, hk⟩ := lineKeys_spec key hkey
  have hprefix := prefix_of_infix (by rcases hk with rfl | rfl <;> decide) ha
    (by rcases hk with rfl | rfl <;> assumption) (hvalue _ hkey) h
  rw [List.append_assoc, ← List.append_assoc] at hprefix
  exact not_prefix_append hname hname' hprefix

/-! ### Lines about an ssrc -/

/-- A line that is only about ssrcs. -/
theorem lineEffect_of_noTransport (type : MediaType) {line : Bytes}
    (h : ∀ key ∈ transportKeys, ¬ key <:+: line) {g : Option SsrcGroup}
    (hg : videoGroupEffect type line = .ok g) {r : Option (UInt32 × SsrcAttribute)}
    (hr : ssrcEffect line = .ok r) :
    lineEffect type.mid line = .ok { current := some (type, { group := g, ssrc := r }) } := by
  have hkey : ∀ key ∈ transportKeys, ¬ contains key line = true :=
    fun key hmem hc => h key hmem (contains_iff.mp hc)
  have hmedia : mediaEffect line = .ok .nothing := by
    apply mediaEffect_of_noMedia
    have hm : ¬ ascii "m=" <:+: line := h _ (by simp [transportKeys])
    have hgroup : ascii "m=" <:+: ascii "m=group:BUNDLE" := by decide +kernel
    rw [if_neg fun hg => hm (hgroup.trans hg)]
    exact hm
  have htransport : transportEffect line = .ok .nothing := by
    unfold transportEffect
    rw [if_neg (hkey _ (by simp [transportKeys])), if_neg (hkey _ (by simp [transportKeys])),
      if_neg (hkey _ (by simp [transportKeys]))]
  rw [lineEffect, hmedia]
  dsimp only [bind, Except.bind, afterMedia]
  rw [sectionType_mid]
  dsimp only
  rw [sectionEffect, htransport, hg, hr]
  rfl

/-- A line without any of the keys says at most something about an ssrc. -/
theorem lineEffect_of_harmless (type : MediaType) {line : Bytes} (h : Harmless line)
    {r : Option (UInt32 × SsrcAttribute)} (hr : ssrcEffect line = .ok r) :
    lineEffect type.mid line = .ok { current := some (type, { ssrc := r }) } := by
  have hgroup : ssrcGroupEffect line = .ok none := by
    unfold ssrcGroupEffect
    rw [if_neg fun hc => h _ (by simp [lineKeys]) (contains_iff.mp hc)]
  exact lineEffect_of_noTransport type (fun key hkey => h key (List.mem_append_left _ hkey))
    (videoGroupEffect_of_none hgroup) hr

/-- The line of a harmless value is harmless. -/
theorem harmless_ssrcLine (ssrc : UInt32) {attr value : Bytes} (hattr : equals ∉ attr)
    (hvalue : Harmless value) : Harmless (ssrcLine ssrc attr value) := by
  let front : Bytes := decimal ssrc.toNat ++ space :: attr ++ [colon]
  have hline : ssrcLine ssrc attr value = ascii "a=" ++ (ascii "ssrc:" ++ front ++ value) := by
    rw [ssrcLine_eq, ssrcValue]
    simp [front]
  have hfront : equals ∉ ascii "ssrc:" ++ front := by
    simp only [front, List.mem_append, List.mem_cons, List.not_mem_nil, or_false, not_or]
    exact ⟨by simp [ascii, equals], ⟨not_mem_decimal (by decide) _, by decide, hattr⟩, by decide⟩
  have hlast : (ascii "ssrc:" ++ front).getLast? = some colon := by
    rw [← List.append_assoc]
    exact List.getLast?_concat
  have hnames : ∀ key ∈ lineKeys, ¬ key <+: ascii "a=" ++ ascii "ssrc:" ∧
      ¬ ascii "a=" ++ ascii "ssrc:" <+: key := by
    decide +kernel
  intro key hkey
  rw [hline]
  exact not_infix_attributeLine hfront (by rw [hlast]; decide) (by rw [hlast]; decide) hvalue hkey
    (hnames key hkey).1 (hnames key hkey).2

/-- What stands before the first delimiter, however many there are. -/
theorem tokenizeFirst_skip {delimiter : UInt8} {a rest : Bytes} (h : delimiter ∉ a) :
    tokenizeFirst delimiter (a ++ delimiter :: rest)
      = some (a, rest.dropWhile (· = delimiter)) := by
  have hall : ∀ b ∈ a, decide (b ≠ delimiter) = true := by
    intro b hb
    rw [decide_eq_true_iff]
    rintro rfl
    exact h hb
  unfold tokenizeFirst
  rw [List.dropWhile_append_of_pos hall, List.dropWhile_cons_of_neg (by simp),
    List.takeWhile_append_of_pos hall, List.takeWhile_cons_of_neg (by simp), List.append_nil]

/-- What a printed line says about its ssrc. -/
theorem ssrcEffect_printed (ssrc : UInt32) {attr value : Bytes} {a : SsrcAttribute}
    (hcolon : colon ∉ attr) (hhead : (attr ++ colon :: value).head? ≠ some space)
    (h : parseSsrcAttribute attr (value.dropWhile (· = colon)) = .ok a) :
    ssrcEffect (ssrcLine ssrc attr value) = .ok (some (ssrc, a)) := by
  have hkey : contains (ascii "a=ssrc:") (ascii "a=" ++ ssrcValue ssrc attr value) = true := by
    rw [contains_iff, ssrcKey, ssrcValue, List.append_assoc, ← List.append_assoc]
    exact (List.prefix_append _ _).isInfix
  rw [ssrcLine_eq, ssrcEffect, if_pos hkey, parseSsrcId_ssrcLine ssrc value hhead]
  show (orElse .rejected (tokenizeFirst colon (attr ++ colon :: value)) >>= _) = _
  rw [tokenizeFirst_skip hcolon]
  show (parseSsrcAttribute attr (value.dropWhile (· = colon)) >>= _) = _
  rw [h]
  rfl

/-- A value that does not begin with a colon loses nothing. -/
theorem dropWhile_colon {value : Bytes} (h : value.head? ≠ some colon) :
    value.dropWhile (· = colon) = value := by
  cases value with
  | nil => rfl
  | cons b value => exact List.dropWhile_cons_of_neg (by simpa using h)

/-! ### Lines of tracks -/

/-- The lines of tracks, with what is read of them. -/
def trackLines (tracks : List StreamParams) : List (Bytes × SectionEffect) :=
  tracks.flatMap fun track =>
    (track.ssrcGroups.map fun g =>
        (ssrcGroupLine g.semantics g.ssrcs, { group := some g })) ++
      track.ssrcs.flatMap fun ssrc =>
        [(ssrcLine ssrc (ascii "cname") track.cname, { ssrc := some (ssrc, .cname track.cname) }),
          (ssrcLine ssrc (ascii "msid") (track.streamId ++ ascii " " ++ track.id),
            { ssrc := some (ssrc, .msid track.streamId (some track.id)) }),
          (ssrcLine ssrc (ascii "mslabel") track.streamId, { ssrc := some (ssrc, .other) }),
          (ssrcLine ssrc (ascii "lable") track.id, { ssrc := some (ssrc, .other) })]

/-- The texts of a track have none of the keys. -/
structure HarmlessTrack (track : StreamParams) : Prop where
  cname : Harmless track.cname
  streamId : Harmless track.streamId
  id : Harmless track.id
  groups : ∀ group ∈ track.ssrcGroups, Harmless group.semantics

/-- The lines of the tracks, without what each of them says. -/
theorem trackLines_fst {tracks : List StreamParams} (h : ∀ track ∈ tracks, ReadTrack track) :
    (trackLines tracks).map Prod.fst = ssrcLines tracks := by
  unfold trackLines ssrcLines
  rw [List.map_flatMap]
  refine List.flatMap_congr fun track htrack => ?_
  have hgroups : track.ssrcGroups.filter (fun g => g.ssrcs ≠ []) = track.ssrcGroups :=
    List.filter_eq_self.mpr fun g hg => by simpa using ((h track htrack).groups g hg).ssrcs
  rw [List.map_append, List.map_map, List.map_flatMap, hgroups]
  rfl

/-- What the lines say about ssrcs. -/
theorem trackLines_ssrc (tracks : List StreamParams) :
    (trackLines tracks).filterMap (fun x => x.2.ssrc) = printedEntries tracks := by
  unfold trackLines printedEntries
  rw [List.filterMap_flatMap]
  refine List.flatMap_congr fun track _ => ?_
  rw [List.filterMap_append, List.filterMap_map, List.filterMap_flatMap]
  have hgroups : track.ssrcGroups.filterMap
      ((fun x : Bytes × SectionEffect => x.2.ssrc) ∘ fun g =>
        (ssrcGroupLine g.semantics g.ssrcs, { group := some g })) = [] :=
    List.filterMap_eq_nil_iff.mpr fun g _ => rfl
  rw [hgroups]
  rfl

/-- The groups that are in the lines. -/
theorem trackLines_group (tracks : List StreamParams) :
    (trackLines tracks).filterMap (fun x => x.2.group) = printedGroups tracks := by
  unfold trackLines printedGroups
  rw [List.filterMap_flatMap]
  refine List.flatMap_congr fun track _ => ?_
  rw [List.filterMap_append, List.filterMap_map, List.filterMap_flatMap]
  have hssrcs : (track.ssrcs.flatMap fun ssrc =>
      ([(ssrcLine ssrc (ascii "cname") track.cname, { ssrc := some (ssrc, .cname track.cname) }),
        (ssrcLine ssrc (ascii "msid") (track.streamId ++ ascii " " ++ track.id),
          { ssrc := some (ssrc, .msid track.streamId (some track.id)) }),
        (ssrcLine ssrc (ascii "mslabel") track.streamId, { ssrc := some (ssrc, .other) }),
        (ssrcLine ssrc (ascii "lable") track.id, { ssrc := some (ssrc, .other) })]
          : List (Bytes × SectionEffect)).filterMap fun x => x.2.group) = [] :=
    List.flatMap_eq_nil_iff.mpr fun ssrc _ => rfl
  rw [hssrcs, List.append_nil]
  exact List.filterMap_some

/-- What holds of each kind of line of a track holds of all lines. -/
theorem forall_trackLines {tracks : List StreamParams} {P : Bytes × SectionEffect → Prop}
    (hgroup : ∀ track ∈ tracks, ∀ g ∈ track.ssrcGroups,
      P (ssrcGroupLine g.semantics g.ssrcs, { group := some g }))
    (hcname : ∀ track ∈ tracks, ∀ ssrc,
      P (ssrcLine ssrc (ascii "cname") track.cname, { ssrc := some (ssrc, .cname track.cname) }))
    (hmsid : ∀ track ∈ tracks, ∀ ssrc,
      P (ssrcLine ssrc (ascii "msid") (track.streamId ++ ascii " " ++ track.id),
        { ssrc := some (ssrc, .msid track.streamId (some track.id)) }))
    (hlabel : ∀ track ∈ tracks, ∀ ssrc,
      P (ssrcLine ssrc (ascii "mslabel") track.streamId, { ssrc := some (ssrc, .other) }) ∧
        P (ssrcLine ssrc (ascii "lable") track.id, { ssrc := some (ssrc, .other) })) :
    ∀ x ∈ trackLines tracks, P x := by
  intro x hx
  obtain ⟨track, htrack, hx⟩ := List.mem_flatMap.mp hx
  rcases List.mem_append.mp hx with hx | hx
  · obtain ⟨g, hg, rfl⟩ := List.mem_map.mp hx
    exact hgroup track htrack g hg
  · obtain ⟨ssrc, -, hx⟩ := List.mem_flatMap.mp hx
    simp only [List.mem_cons, List.not_mem_nil, or_false] at hx
    rcases hx with rfl | rfl | rfl | rfl
    · exact hcname track htrack ssrc
    · exact hmsid track htrack ssrc
    · exact (hlabel track htrack ssrc).1
    · exact (hlabel track htrack ssrc).2

/-- The line of a group, which only a video section has. Its semantics may have any harmless
characters, so the keys are looked for in it, too. -/
theorem lineEffect_groupLine {group : SsrcGroup} (h : ReadGroup group)
    (hharmless : Harmless group.semantics) :
    lineEffect MediaType.video.mid (ssrcGroupLine group.semantics group.ssrcs)
      = .ok { current := some (.video, { group := some group }) } := by
  obtain ⟨hssrcs, hne, hcolon, hspace, -⟩ := h
  obtain ⟨ssrc, ssrcs, hcons⟩ := List.exists_cons_of_ne_nil hssrcs
  -- the ssrcs are a text without an equals sign behind a blank
  let numbers : Bytes := decimal ssrc.toNat ++
    (ssrcs.map fun ssrc => decimal ssrc.toNat).flatMap fun f => space :: f
  have hnumbers : equals ∉ numbers := by
    simp only [numbers, List.mem_append, List.mem_flatMap, List.mem_cons, not_or, not_exists,
      not_and]
    refine ⟨not_mem_decimal (by decide) _, fun f hf => ⟨by decide, ?_⟩⟩
    exact not_mem_decimals (by decide) ssrcs f hf
  have hline : ssrcGroupLine group.semantics group.ssrcs
      = ascii "a=" ++ (ascii "ssrc-group:" ++ [] ++ (group.semantics ++ space :: numbers)) := by
    rw [ssrcGroupLine_eq, ssrcGroupValue, hcons]
    simp [numbers]
  have hfront : equals ∉ ascii "ssrc-group:" ++ [] := by simp [ascii, equals]
  have hlast : (ascii "ssrc-group:" ++ []).getLast? = some colon := by simp [ascii, colon]
  have hvalue : Harmless (group.semantics ++ space :: numbers) :=
    harmless_blank hharmless (harmless_of_not_mem hnumbers)
  have hnames : ∀ key ∈ transportKeys, ¬ key <+: ascii "a=" ++ ascii "ssrc-group:" ∧
      ¬ ascii "a=" ++ ascii "ssrc-group:" <+: key := by
    decide +kernel
  have hgroup : videoGroupEffect .video (ssrcGroupLine group.semantics group.ssrcs)
      = .ok (some group) := by
    have hkey : contains (ascii "a=ssrc-group:") (ascii "a=" ++ ssrcGroupValue group.semantics
        group.ssrcs) = true := by
      rw [contains_iff, ssrcGroupKey, ssrcGroupValue, List.append_assoc, ← List.append_assoc]
      exact (List.prefix_append _ _).isInfix
    rw [ssrcGroupLine_eq, videoGroupEffect, if_pos rfl, ssrcGroupEffect, if_pos hkey,
      parseSsrcGroup_ssrcGroupLine hne hcolon hspace hssrcs]
    rfl
  have hssrc : ssrcEffect (ssrcGroupLine group.semantics group.ssrcs) = .ok none := by
    have hkey : ascii "a=ssrc:" = 0x61 :: equals :: ascii "ssrc:" := by simp [ascii, equals]
    have hvalue : ¬ 0x61 :: equals :: ascii "ssrc:" <:+: group.semantics ++ space :: numbers := by
      intro h
      rcases infix_append_cons (by simp [ascii, space, equals]) h with h | h
      · exact hcolon (h.subset (by simp [ascii, colon]))
      · exact hnumbers (h.subset (by simp))
    unfold ssrcEffect
    rw [if_neg]
    rw [contains_iff, hline, hkey]
    intro h
    have hprefix := prefix_of_infix (by decide) hfront (by rw [hlast]; decide) hvalue h
    rw [← hkey, List.append_nil, ← List.append_assoc] at hprefix
    exact not_prefix_append (by decide +kernel) (by decide +kernel) hprefix
  refine lineEffect_of_noTransport .video (fun key hkey => ?_) hgroup hssrc
  rw [hline]
  exact not_infix_attributeLine hfront (by rw [hlast]; decide) (by rw [hlast]; decide) hvalue
    (List.mem_append_left _ hkey) (hnames key hkey).1 (hnames key hkey).2

/-- Each line of the tracks of a section is read there, and nowhere else. -/
theorem lineEffect_trackLines {type : MediaType} {tracks : List StreamParams}
    (hread : ∀ track ∈ tracks, ReadTrack track ∧ (type = .audio → track.ssrcGroups = []))
    (hharmless : ∀ track ∈ tracks, HarmlessTrack track) :
    ∀ x ∈ trackLines tracks, lineEffect type.mid x.1 = .ok { current := some (type, x.2) } := by
  have hblank : ascii " " = [space] := by simp [ascii, space]
  have hother : ∀ (ssrc : UInt32) (attr value : Bytes), attr ∈ [ascii "mslabel", ascii "lable"] →
      Harmless value → lineEffect type.mid (ssrcLine ssrc attr value)
        = .ok { current := some (type, { ssrc := some (ssrc, .other) }) } := by
    intro ssrc attr value hattr hvalue
    have hnames : ∀ attr ∈ [ascii "mslabel", ascii "lable"], equals ∉ attr ∧ colon ∉ attr ∧
        attr.head? ≠ some space ∧ attr ≠ [] ∧ attr ≠ ascii "cname" ∧ attr ≠ ascii "msid" := by
      decide +kernel
    obtain ⟨hequals, hcolon, hspace, hne, hcname, hmsid⟩ := hnames attr hattr
    obtain ⟨b, rest, rfl⟩ := List.exists_cons_of_ne_nil hne
    refine lineEffect_of_harmless type (harmless_ssrcLine ssrc hequals hvalue)
      (ssrcEffect_printed ssrc hcolon hspace ?_)
    unfold parseSsrcAttribute
    rw [if_neg hcname, if_neg hmsid]
  refine forall_trackLines ?_ ?_ ?_ ?_
  · intro track htrack g hg
    obtain ⟨htrack', haudio⟩ := hread track htrack
    cases type with
    | audio =>
        rw [haudio rfl] at hg
        exact absurd hg List.not_mem_nil
    | video => exact lineEffect_groupLine (htrack'.groups g hg) ((hharmless track htrack).groups g hg)
  · intro track htrack ssrc
    have hread := (hread track htrack).1
    refine lineEffect_of_harmless type
      (harmless_ssrcLine ssrc (by simp [ascii, equals]) (hharmless track htrack).cname)
      (ssrcEffect_printed ssrc (by simp [ascii, colon]) (by simp [ascii, space]) ?_)
    rw [dropWhile_colon hread.cname.1]
    rfl
  · intro track htrack ssrc
    have hread := (hread track htrack).1
    have hvalue : Harmless (track.streamId ++ ascii " " ++ track.id) := by
      rw [hblank, List.append_assoc]
      exact harmless_blank (hharmless track htrack).streamId (hharmless track htrack).id
    refine lineEffect_of_harmless type
      (harmless_ssrcLine ssrc (by simp [ascii, equals]) hvalue)
      (ssrcEffect_printed ssrc (by simp [ascii, colon]) (by simp [ascii, space]) ?_)
    rw [dropWhile_colon]
    · exact parseSsrcAttribute_msid hread.streamId.1.1 hread.id.1
    · -- an empty stream id leaves the blank in front
      rw [hblank, List.append_assoc, List.head?_append]
      cases hhead : track.streamId.head? with
      | none => simp [space, colon]
      | some b =>
          rw [Option.some_or, ← hhead]
          exact hread.streamId.2.1
  · intro track htrack ssrc
    exact ⟨hother ssrc _ _ (by simp) (hharmless track htrack).streamId,
      hother ssrc _ _ (by simp) (hharmless track htrack).id⟩

/-- No line of a track has a line feed. -/
theorem lf_notMem_trackLines {tracks : List StreamParams}
    (hread : ∀ track ∈ tracks, ReadTrack track) : ∀ x ∈ trackLines tracks, lf ∉ x.1 := by
  have hattribute : lf ∉ ascii "a=" := by simp [ascii, lf]
  have hline : ∀ (ssrc : UInt32) {attr value : Bytes}, lf ∉ attr → lf ∉ value →
      lf ∉ ssrcLine ssrc attr value := by
    intro ssrc attr value hattr hvalue
    rw [ssrcLine_eq, List.mem_append, not_or]
    exact ⟨hattribute, not_mem_ssrcValue (by simp [ascii, lf]) (by decide) _ hattr hvalue⟩
  refine forall_trackLines ?_ ?_ ?_ ?_
  · intro track htrack g hg
    have hsemantics := ((hread track htrack).groups g hg).semantics.2.2.2
    rw [ssrcGroupLine_eq, List.mem_append, not_or]
    exact ⟨hattribute, not_mem_ssrcGroupValue (by simp [ascii, lf]) (by decide) (by decide)
      hsemantics _⟩
  · intro track htrack ssrc
    exact hline ssrc (by simp [ascii, lf]) (hread track htrack).cname.2
  · intro track htrack ssrc
    refine hline ssrc (by simp [ascii, lf]) ?_
    simp only [List.mem_append, not_or]
    exact ⟨⟨(hread track htrack).streamId.1.2, by simp [ascii, lf]⟩, (hread track htrack).id.2⟩
  · intro track htrack ssrc
    exact ⟨hline ssrc (by simp [ascii, lf]) (hread track htrack).streamId.1.2,
      hline ssrc (by simp [ascii, lf]) (hread track htrack).id.2⟩

/-! ### What the lines leave -/

/-- Lines that are only about ssrcs, in a section. -/
theorem foldl_applySection (block : List (Bytes × SectionEffect))
    (h : ∀ x ∈ block, x.2.transport = .nothing) (sec : RemoteSection) :
    block.foldl (fun sec x => applySection sec x.2) sec =
      { td := sec.td
        ssrcInfo := (block.filterMap fun x => x.2.ssrc).foldl
          (fun infos e => ssrcGrouping.insert e infos) sec.ssrcInfo
        ssrcGroups := sec.ssrcGroups ++ block.filterMap fun x => x.2.group } := by
  -- on the lines, from any local objects
  induction block generalizing sec with
  | nil =>
      rw [List.filterMap_nil, List.filterMap_nil, List.append_nil]
      rfl
  | cons x block ih =>
      obtain ⟨hx, hblock⟩ := List.forall_mem_cons.mp h
      rw [List.foldl_cons, ih hblock, List.filterMap_cons, List.filterMap_cons]
      have htd : (applySection sec x.2).td = sec.td := by
        show applyTransport sec.td x.2.transport = sec.td
        rw [hx]
        rfl
      rw [htd, applySection]
      cases x.2.ssrc <;> cases x.2.group <;>
        simp [setSsrcInfo_eq]

/-- A section is left with the tracks that were printed. -/
theorem tracks_trackLines {tracks : List StreamParams} (h : Separate tracks)
    (td : TransportDescription) :
    ((trackLines tracks).foldl (fun sec x => applySection sec x.2) { td }).tracks = tracks ∧
      ((trackLines tracks).foldl (fun sec x => applySection sec x.2) { td }).td = td := by
  have hnothing : ∀ x ∈ trackLines tracks, x.2.transport = .nothing :=
    forall_trackLines (fun _ _ _ _ => rfl) (fun _ _ _ => rfl) (fun _ _ _ => rfl)
      fun _ _ _ => ⟨rfl, rfl⟩
  rw [foldl_applySection _ hnothing, trackLines_ssrc, trackLines_group]
  exact ⟨tracks_printed h, rfl⟩

end Xrtc.Proofs.Stream
