import Xrtc.Proofs.Base.StringEncode
import Xrtc.Proofs.Pc.RemoteSdp
import Xrtc.Proofs.Pc.TransportActions

/-!
# `Xrtc.Proofs.Pc.AcceptedAnswer`: how `set_remote_sdp` ends

What makes a line accepted, and what makes it safe to look at, is said here of the line and
of the media type of the last `m=` line (`LineAccepted`, `LineSafe`). The parser looks at
the lines up to the first that is not accepted, so the text is safe if these are
(`SafeLines`). `parseLines_isOk_iff` and `parseLines_outOfRange_iff` are the two facts
about the loop.

Behind the loop a section with a transport needs a fingerprint, which the loop does not ask
for (`FingerprintsPresent`). `Xrtc.Proofs.Pc.SetRemoteSdp` puts this together: exactly then
does the call return.
-/

set_option autoImplicit false

namespace Xrtc.Proofs.Pc

open Xrtc.Base
open Xrtc.Lib
open Xrtc.Ice (ascii colon split)
open Xrtc.Pc

/-! ### `m=` lines -/

/-- A line that is taken as an `m=` line, wherever the two characters are. -/
def IsMedia (line : Bytes) : Prop := ascii "m=" <:+: line ∧ ¬ ascii "m=group:BUNDLE" <:+: line

instance (line : Bytes) : Decidable (IsMedia line) := inferInstanceAs (Decidable (_ ∧ _))

/-- The first field of a line. -/
def firstField (line : Bytes) : Bytes := (split space [] line).headD []

/-- An `m=` line has three fields. -/
def MediaAccepted (line : Bytes) : Prop := IsMedia line → 3 ≤ (split space [] line).length

/-- The first of its fields has two characters in front of the media type. -/
def MediaSafe (line : Bytes) : Prop :=
  IsMedia line → 3 ≤ (split space [] line).length → 2 ≤ (firstField line).length

/-- The media type after a line. -/
def mediaTypeAfter (mediaType line : Bytes) : Bytes :=
  if IsMedia line then (firstField line).drop 2 else mediaType

/-- `substr` returns the rest of a text from a position that is not behind its end. -/
theorem substr_eq_some {text rest : Bytes} {pos : Nat} :
    substr text pos = some rest ↔ pos ≤ text.length ∧ rest = text.drop pos := by
  unfold substr
  split
  · simp
    omega
  · simp [eq_comm]
    omega

/-- It throws from a position behind the end. -/
theorem substr_eq_none {text : Bytes} {pos : Nat} : substr text pos = none ↔ text.length < pos := by
  unfold substr
  split <;> simp <;> omega

/-- The effect of a line that is not taken as an `m=` line. -/
theorem mediaEffect_of_not_isMedia {line : Bytes} (h : ¬ IsMedia line) :
    ∃ e, mediaEffect line = .ok e ∧ ∀ mediaType, afterMedia mediaType e = mediaType := by
  unfold mediaEffect
  by_cases hgroup : ascii "m=group:BUNDLE" <:+: line
  · rw [if_pos (contains_iff.mpr hgroup)]
    rcases split space [] line with _ | ⟨item, _ | ⟨name, names⟩⟩ <;> exact ⟨_, rfl, fun _ => rfl⟩
  · have hmedia : ¬ ascii "m=" <:+: line := fun hmedia => h ⟨hmedia, hgroup⟩
    rw [if_neg (fun hc => hgroup (contains_iff.mp hc)), if_neg (fun hc => hmedia (contains_iff.mp hc))]
    exact ⟨_, rfl, fun _ => rfl⟩

/-- The effect of an `m=` line. -/
theorem mediaEffect_of_isMedia {line : Bytes} (h : IsMedia line) :
    mediaEffect line =
      if (split space [] line).length < 3 then .error .rejected
      else if (firstField line).length < 2 then .error .outOfRange
      else .ok (.enter ((firstField line).drop 2)) := by
  unfold mediaEffect firstField
  rw [if_neg (fun hc => h.2 (contains_iff.mp hc)), if_pos (contains_iff.mpr h.1)]
  rcases split space [] line with _ | ⟨item, _ | ⟨name, _ | ⟨name', names⟩⟩⟩
  case cons.cons.cons =>
    rw [if_neg (by simp only [List.length_cons]; omega)]
    show (orElse .outOfRange (substr item 2)).map MediaEffect.enter = _
    rw [List.headD_cons]
    unfold substr
    split_ifs <;> rfl
  all_goals rfl

/-- The first part of the loop body comes to its end exactly for the lines that are accepted there
and throw nothing. -/
theorem mediaEffect_isOk_iff {line : Bytes} :
    (∃ e, mediaEffect line = .ok e) ↔ MediaAccepted line ∧ MediaSafe line := by
  unfold MediaAccepted MediaSafe
  by_cases h : IsMedia line
  · rw [mediaEffect_of_isMedia h]
    simp only [h, forall_true_left]
    split_ifs <;> simp <;> omega
  · obtain ⟨e, he, -⟩ := mediaEffect_of_not_isMedia h
    exact ⟨fun _ => ⟨fun hm => absurd hm h, fun hm => absurd hm h⟩, fun _ => ⟨e, he⟩⟩

/-- It throws exactly for the lines that are not safe there. -/
theorem mediaEffect_outOfRange_iff {line : Bytes} :
    mediaEffect line = .error .outOfRange ↔ ¬ MediaSafe line := by
  unfold MediaSafe
  by_cases h : IsMedia line
  · rw [mediaEffect_of_isMedia h]
    simp only [h, forall_true_left]
    split_ifs <;> simp <;> omega
  · obtain ⟨e, he, -⟩ := mediaEffect_of_not_isMedia h
    rw [he]
    simp [h]

/-- The current section behind a line can be read off the line. -/
theorem afterMedia_eq {line : Bytes} {e : MediaEffect} (h : mediaEffect line = .ok e)
    (mediaType : Bytes) : afterMedia mediaType e = mediaTypeAfter mediaType line := by
  unfold mediaTypeAfter
  by_cases hm : IsMedia line
  · rw [mediaEffect_of_isMedia hm] at h
    split_ifs at h
    cases h
    rw [if_pos hm]
    rfl
  · obtain ⟨e', he', hafter⟩ := mediaEffect_of_not_isMedia hm
    rw [he'] at h
    cases h
    rw [if_neg hm, hafter]

/-! ### Lines in a section -/

/-- A line that is taken as a fingerprint. -/
def IsFingerprint (line : Bytes) : Prop :=
  ¬ ascii "a=ice-ufrag" <:+: line ∧ ¬ ascii "a=ice-pwd" <:+: line ∧
    ascii "a=fingerprint" <:+: line

instance (line : Bytes) : Decidable (IsFingerprint line) := inferInstanceAs (Decidable (_ ∧ _))

/-- A username or a password has the form `name:value`, and a fingerprint is made of an
algorithm and a digest. -/
def TransportAccepted (line : Bytes) : Prop :=
  (ascii "a=ice-ufrag" <:+: line ∨ ascii "a=ice-pwd" <:+: line → getAttribute line ≠ []) ∧
    (IsFingerprint line → ∃ item content, tokenize space [] line = [item, content] ∧
      14 ≤ item.length ∧
      (SSLFingerprint.createUniqueFromRfc4572 ((item.drop 14).map toLower) content).isSome)

/-- The algorithm stands behind 14 characters. -/
def TransportSafe (line : Bytes) : Prop :=
  IsFingerprint line → ∀ item content, tokenize space [] line = [item, content] → 14 ≤ item.length

/-- A group has a meaning and at least one ssrc. -/
def GroupAccepted (line : Bytes) : Prop :=
  ascii "a=ssrc-group:" <:+: line → (parseSsrcGroup line).isSome

/-- An ssrc is a number behind five characters, its attribute has the form `name:value`,
and an `msid` has one or two fields. -/
def SsrcAccepted (line : Bytes) : Prop :=
  ascii "a=ssrc:" <:+: line → ∃ field1 field2 attr value,
    tokenizeFirst space (line.drop 2) = some (field1, field2) ∧ 5 ≤ field1.length ∧
      (fromString (field1.drop 5)).isSome ∧ tokenizeFirst colon field2 = some (attr, value) ∧
      (attr = ascii "msid" → (split space [] value).length ≤ 2)

/-- The ssrc of an `a=ssrc:` line is taken behind its first five characters, so there must be so
many. -/
def SsrcSafe (line : Bytes) : Prop :=
  ascii "a=ssrc:" <:+: line → ∀ field1 field2,
    tokenizeFirst space (line.drop 2) = some (field1, field2) → 5 ≤ field1.length

/-- A value that must not be empty is taken if it is not. -/
theorem nonEmpty_map_isOk {value : Bytes} {f : Bytes → TransportEffect} :
    (∃ e, (nonEmpty value).map f = .ok e) ↔ value ≠ [] := by
  unfold nonEmpty
  split <;> simp_all [Except.map]

/-- An empty value rejects the text, and no exception is thrown. -/
theorem nonEmpty_map_ne {value : Bytes} {f : Bytes → TransportEffect} :
    (nonEmpty value).map f ≠ .error .outOfRange := by
  unfold nonEmpty
  split <;> simp [Except.map]

/-- `parse_transport_info` succeeds exactly for these lines. The keys are looked for one after the
other, and the first one that is found decides. -/
theorem transportEffect_isOk_iff {line : Bytes} :
    (∃ e, transportEffect line = .ok e) ↔ TransportAccepted line := by
  unfold transportEffect TransportAccepted IsFingerprint
  -- the keys in the order in which they are looked for
  by_cases hufrag : ascii "a=ice-ufrag" <:+: line
  · rw [if_pos (contains_iff.mpr hufrag), nonEmpty_map_isOk]
    simp [hufrag]
  · rw [if_neg (fun hc => hufrag (contains_iff.mp hc))]
    by_cases hpwd : ascii "a=ice-pwd" <:+: line
    · rw [if_pos (contains_iff.mpr hpwd), nonEmpty_map_isOk]
      simp [hufrag, hpwd]
    · rw [if_neg (fun hc => hpwd (contains_iff.mp hc))]
      by_cases hfp : ascii "a=fingerprint" <:+: line
      · rw [if_pos (contains_iff.mpr hfp)]
        simp only [hufrag, hpwd, hfp, or_self, not_false_eq_true, and_self, forall_true_left,
          false_imp_iff, true_and]
        rcases tokenize space [] line with _ | ⟨item, _ | ⟨content, _ | _⟩⟩
        case cons.cons.nil =>
          simp only [bind_eq_ok, orElse_eq_ok, substr_eq_some]
          constructor
          · rintro ⟨e, alg, ⟨hlen, rfl⟩, fp, hcreate, -⟩
            exact ⟨item, content, rfl, hlen, by rw [hcreate]; rfl⟩
          · rintro ⟨item', content', heq, hlen, hcreate⟩
            cases heq
            obtain ⟨fp, hcreate⟩ := Option.isSome_iff_exists.mp hcreate
            exact ⟨_, _, ⟨hlen, rfl⟩, fp, hcreate, rfl⟩
        all_goals simp
      · rw [if_neg (fun hc => hfp (contains_iff.mp hc))]
        simp [hufrag, hpwd, hfp]

/-- It throws exactly for the fingerprint lines whose first field has fewer than 14 characters. -/
theorem transportEffect_outOfRange_iff {line : Bytes} :
    transportEffect line = .error .outOfRange ↔ ¬ TransportSafe line := by
  unfold transportEffect TransportSafe IsFingerprint
  by_cases hufrag : ascii "a=ice-ufrag" <:+: line
  · rw [if_pos (contains_iff.mpr hufrag)]
    simp [hufrag, nonEmpty_map_ne]
  · rw [if_neg (fun hc => hufrag (contains_iff.mp hc))]
    by_cases hpwd : ascii "a=ice-pwd" <:+: line
    · rw [if_pos (contains_iff.mpr hpwd)]
      simp [hpwd, nonEmpty_map_ne]
    · rw [if_neg (fun hc => hpwd (contains_iff.mp hc))]
      by_cases hfp : ascii "a=fingerprint" <:+: line
      · rw [if_pos (contains_iff.mpr hfp)]
        simp only [hufrag, hpwd, hfp, not_false_eq_true, and_self, forall_true_left]
        rcases tokenize space [] line with _ | ⟨item, _ | ⟨content, _ | _⟩⟩
        case cons.cons.nil =>
          simp only [bind_eq_error, orElse_eq_error, substr_eq_none]
          simp [pure, Except.pure]
        all_goals simp
      · rw [if_neg (fun hc => hfp (contains_iff.mp hc))]
        simp [hfp]

/-- `parse_ssrc_group_info` succeeds exactly for these lines. -/
theorem ssrcGroupEffect_isOk_iff {line : Bytes} :
    (∃ g, ssrcGroupEffect line = .ok g) ↔ GroupAccepted line := by
  unfold ssrcGroupEffect GroupAccepted
  by_cases h : ascii "a=ssrc-group:" <:+: line
  · rw [if_pos (contains_iff.mpr h)]
    cases parseSsrcGroup line <;> simp [h, orElse, Except.map]
  · rw [if_neg (fun hc => h (contains_iff.mp hc))]
    simp [h]

/-- It never throws. -/
theorem ssrcGroupEffect_ne {line : Bytes} : ssrcGroupEffect line ≠ .error .outOfRange := by
  unfold ssrcGroupEffect
  split
  · cases parseSsrcGroup line <;> simp [orElse, Except.map]
  · simp

/-- An attribute of an ssrc is rejected only if it is an `msid` with more than two fields. -/
theorem parseSsrcAttribute_isOk_iff {attr value : Bytes} :
    (∃ a, parseSsrcAttribute attr value = .ok a) ↔
      (attr = ascii "msid" → (split space [] value).length ≤ 2) := by
  have hne : ascii "cname" ≠ ascii "msid" := by decide +kernel
  unfold parseSsrcAttribute
  by_cases hcname : attr = ascii "cname"
  · rw [if_pos hcname]
    exact ⟨fun _ hmsid => absurd (hcname.symm.trans hmsid) hne, fun _ => ⟨_, rfl⟩⟩
  · rw [if_neg hcname]
    by_cases hmsid : attr = ascii "msid"
    · rw [if_pos hmsid]
      unfold parseMsid
      have hvalue := Xrtc.Proofs.Base.split_ne_nil space value []
      revert hvalue
      rcases split space [] value with _ | ⟨streamId, _ | ⟨trackId, _ | _⟩⟩ <;> simp [hmsid]
    · rw [if_neg hmsid]
      exact ⟨fun _ h => absurd h hmsid, fun _ => ⟨_, rfl⟩⟩

/-- It never throws. -/
theorem parseSsrcAttribute_ne {attr value : Bytes} :
    parseSsrcAttribute attr value ≠ .error .outOfRange := by
  unfold parseSsrcAttribute parseMsid
  rcases split space [] value with _ | ⟨streamId, _ | ⟨trackId, _ | _⟩⟩ <;> split_ifs <;> simp

/-- `parse_ssrc_info` succeeds exactly for these lines. -/
theorem ssrcEffect_isOk_iff {line : Bytes} :
    (∃ e, ssrcEffect line = .ok e) ↔ SsrcAccepted line := by
  unfold ssrcEffect SsrcAccepted
  by_cases h : ascii "a=ssrc:" <:+: line
  · rw [if_pos (contains_iff.mpr h)]
    simp only [h, forall_true_left, parseSsrcId, bind_eq_ok, orElse_eq_ok, substr_eq_some,
      Prod.exists]
    constructor
    · rintro ⟨e, ssrcId, field2, ⟨field1, field2', htok, idS, ⟨hlen, rfl⟩, id, hid, hpair⟩, attr,
        value, hattr, a, ha, -⟩
      cases hpair
      exact ⟨field1, field2, attr, value, htok, hlen, by rw [hid]; rfl, hattr,
        parseSsrcAttribute_isOk_iff.mp ⟨a, ha⟩⟩
    · rintro ⟨field1, field2, attr, value, htok, hlen, hid, hattr, hmsid⟩
      obtain ⟨id, hid⟩ := Option.isSome_iff_exists.mp hid
      obtain ⟨a, ha⟩ := parseSsrcAttribute_isOk_iff.mpr hmsid
      exact ⟨_, id, field2, ⟨field1, field2, htok, _, ⟨hlen, rfl⟩, id, hid, rfl⟩, attr, value, hattr,
        a, ha, rfl⟩
  · rw [if_neg (fun hc => h (contains_iff.mp hc))]
    simp [h]

/-- It throws exactly where the first field is too short. -/
theorem ssrcEffect_outOfRange_iff {line : Bytes} :
    ssrcEffect line = .error .outOfRange ↔ ¬ SsrcSafe line := by
  unfold ssrcEffect SsrcSafe
  by_cases h : ascii "a=ssrc:" <:+: line
  · rw [if_pos (contains_iff.mpr h)]
    simp only [h, forall_true_left, parseSsrcId, bind_eq_error, bind_eq_ok, orElse_eq_error,
      orElse_eq_ok, substr_eq_none, substr_eq_some, Prod.exists, parseSsrcAttribute_ne]
    simp [pure, Except.pure]
  · rw [if_neg (fun hc => h (contains_iff.mp hc))]
    simp [h]

/-- A line that the three calls for a section accept. Groups are read in the video section only.
-/
def SectionAccepted (type : MediaType) (line : Bytes) : Prop :=
  TransportAccepted line ∧ (type = .video → GroupAccepted line) ∧ SsrcAccepted line

/-- What is not reached in a line cannot go wrong. -/
def SectionSafe (type : MediaType) (line : Bytes) : Prop :=
  TransportSafe line ∧
    (TransportAccepted line → (type = .video → GroupAccepted line) → SsrcSafe line)

/-- What the second call accepts, which is made for video only. -/
theorem videoGroupEffect_isOk_iff {type : MediaType} {line : Bytes} :
    (∃ g, videoGroupEffect type line = .ok g) ↔ (type = .video → GroupAccepted line) := by
  unfold videoGroupEffect
  by_cases h : type = .video
  · rw [if_pos h, ssrcGroupEffect_isOk_iff]
    exact ⟨fun hg _ => hg, fun hg => hg h⟩
  · rw [if_neg h]
    exact ⟨fun _ hv => absurd hv h, fun _ => ⟨none, rfl⟩⟩

/-- It never throws. -/
theorem videoGroupEffect_ne {type : MediaType} {line : Bytes} :
    videoGroupEffect type line ≠ .error .outOfRange := by
  unfold videoGroupEffect
  split
  · exact ssrcGroupEffect_ne
  · simp

/-- The three calls succeed exactly for the lines that each of them accepts. -/
theorem sectionEffect_isOk_iff {type : MediaType} {line : Bytes} :
    (∃ e, sectionEffect type line = .ok e) ↔ SectionAccepted type line := by
  unfold sectionEffect SectionAccepted
  rw [← transportEffect_isOk_iff, ← videoGroupEffect_isOk_iff, ← ssrcEffect_isOk_iff]
  constructor
  · rintro ⟨e, h⟩
    obtain ⟨transport, htransport, h⟩ := bind_eq_ok.mp h
    obtain ⟨group, hgroup, h⟩ := bind_eq_ok.mp h
    obtain ⟨ssrc, hssrc, -⟩ := bind_eq_ok.mp h
    exact ⟨⟨transport, htransport⟩, ⟨group, hgroup⟩, ssrc, hssrc⟩
  · rintro ⟨⟨transport, htransport⟩, ⟨group, hgroup⟩, ssrc, hssrc⟩
    exact ⟨_, bind_eq_ok.mpr ⟨transport, htransport,
      bind_eq_ok.mpr ⟨group, hgroup, bind_eq_ok.mpr ⟨ssrc, hssrc, rfl⟩⟩⟩⟩

/-- They throw exactly where one of them throws and those before it have succeeded. -/
theorem sectionEffect_outOfRange_iff {type : MediaType} {line : Bytes} :
    sectionEffect type line = .error .outOfRange ↔ ¬ SectionSafe type line := by
  unfold sectionEffect SectionSafe
  rw [← transportEffect_isOk_iff, ← videoGroupEffect_isOk_iff, not_and_or,
    ← transportEffect_outOfRange_iff]
  constructor
  · intro h
    rcases bind_eq_error.mp h with htransport | ⟨transport, htransport, h⟩
    · exact .inl htransport
    · rcases bind_eq_error.mp h with hgroup | ⟨group, hgroup, h⟩
      · exact absurd hgroup videoGroupEffect_ne
      · rcases bind_eq_error.mp h with hssrc | ⟨ssrc, -, h⟩
        · exact .inr fun hsafe => ssrcEffect_outOfRange_iff.mp hssrc
            (hsafe ⟨transport, htransport⟩ ⟨group, hgroup⟩)
        · cases h
  · intro h
    rcases h with htransport | hssrc
    · exact bind_eq_error.mpr (.inl htransport)
    · simp only [Classical.not_imp] at hssrc
      obtain ⟨⟨transport, htransport⟩, ⟨group, hgroup⟩, hssrc⟩ := hssrc
      exact bind_eq_error.mpr (.inr ⟨transport, htransport, bind_eq_error.mpr
        (.inr ⟨group, hgroup, bind_eq_error.mpr
          (.inl (ssrcEffect_outOfRange_iff.mpr hssrc))⟩)⟩)

/-! ### Lines -/

/-- A line is accepted behind an `m=` line of a media type. -/
def LineAccepted (mediaType line : Bytes) : Prop :=
  MediaAccepted line ∧ MediaSafe line ∧
    ∀ type, sectionType (mediaTypeAfter mediaType line) = some type → SectionAccepted type line

/-- Looking at a line takes no part of a text that is not there. -/
def LineSafe (mediaType line : Bytes) : Prop :=
  MediaSafe line ∧ (MediaAccepted line →
    ∀ type, sectionType (mediaTypeAfter mediaType line) = some type → SectionSafe type line)

/-- The loop body comes to its end exactly for the accepted lines, with the current section in
front of the line. An `m=` line is looked at in the section that it has begun. -/
theorem lineEffect_isOk_iff {mediaType line : Bytes} :
    (∃ e, lineEffect mediaType line = .ok e) ↔ LineAccepted mediaType line := by
  unfold LineAccepted
  rw [← and_assoc, ← mediaEffect_isOk_iff]
  constructor
  · rintro ⟨e, h⟩
    obtain ⟨media, hmedia, h⟩ := bind_eq_ok.mp h
    refine ⟨⟨media, hmedia⟩, fun type htype => ?_⟩
    rw [afterMedia_eq hmedia, htype] at h
    obtain ⟨e', hsection, -⟩ := bind_eq_ok.mp h
    exact sectionEffect_isOk_iff.mp ⟨e', hsection⟩
  · rintro ⟨⟨media, hmedia⟩, hsection⟩
    unfold lineEffect
    simp only [bind_eq_ok]
    rw [exists_comm]
    refine ⟨media, ?_⟩
    simp only [hmedia, true_and, afterMedia_eq hmedia]
    cases htype : sectionType (mediaTypeAfter mediaType line) with
    | none => exact ⟨_, rfl⟩
    | some type =>
        obtain ⟨e, he⟩ := sectionEffect_isOk_iff.mpr (hsection type htype)
        exact ⟨_, bind_eq_ok.mpr ⟨e, he, rfl⟩⟩

/-- It throws exactly for the lines that are not safe. A line that is rejected before it can throw
counts as safe. -/
theorem lineEffect_outOfRange_iff {mediaType line : Bytes} :
    lineEffect mediaType line = .error .outOfRange ↔ ¬ LineSafe mediaType line := by
  unfold LineSafe
  rw [not_and_or, ← mediaEffect_outOfRange_iff]
  constructor
  -- the exception comes from the media part, or from the section behind a media part that was
  -- accepted
  · intro h
    rcases bind_eq_error.mp h with hmedia | ⟨media, hmedia, h⟩
    · exact .inl hmedia
    · refine .inr fun hsafe => ?_
      have haccepted := mediaEffect_isOk_iff.mp ⟨media, hmedia⟩
      rw [afterMedia_eq hmedia] at h
      cases htype : sectionType (mediaTypeAfter mediaType line) with
      | none =>
          rw [htype] at h
          cases h
      | some type =>
          rw [htype] at h
          rcases bind_eq_error.mp h with hsection | ⟨e, -, h⟩
          · exact sectionEffect_outOfRange_iff.mp hsection (hsafe haccepted.1 type htype)
          · cases h
  · intro h
    rcases h with hmedia | hsafe
    · exact bind_eq_error.mpr (.inl hmedia)
    · simp only [Classical.not_imp, not_forall] at hsafe
      obtain ⟨haccepted, type, htype, hsafe⟩ := hsafe
      -- where the media part throws as well, it does so first
      by_cases hmediaSafe : MediaSafe line
      · obtain ⟨media, hmedia⟩ := mediaEffect_isOk_iff.mpr ⟨haccepted, hmediaSafe⟩
        refine bind_eq_error.mpr (.inr ⟨media, hmedia, ?_⟩)
        rw [afterMedia_eq hmedia, htype]
        exact bind_eq_error.mpr (.inl (sectionEffect_outOfRange_iff.mpr hsafe))
      · exact bind_eq_error.mpr (.inl (mediaEffect_outOfRange_iff.mpr hmediaSafe))

/-! ### Texts -/

/-- All lines are accepted, the first of them behind an `m=` line of a media type. -/
def AcceptedLines : (mediaType : Bytes) → List Bytes → Prop
  | _, [] => True
  | mediaType, line :: lines =>
      LineAccepted mediaType line ∧ AcceptedLines (mediaTypeAfter mediaType line) lines

/-- The lines are safe up to the first that is not accepted. -/
def SafeLines : (mediaType : Bytes) → List Bytes → Prop
  | _, [] => True
  | mediaType, line :: lines =>
      LineSafe mediaType line ∧
        (LineAccepted mediaType line → SafeLines (mediaTypeAfter mediaType line) lines)

/-- The current section behind an accepted line. -/
theorem lineEffect_mediaType {s : RemoteSdp} {line : Bytes} {e : LineEffect}
    (h : lineEffect s.mediaType line = .ok e) :
    (applyLine s e).mediaType = mediaTypeAfter s.mediaType line := by
  obtain ⟨media, hmedia, h⟩ := bind_eq_ok.mp h
  have hmediaType : e.media = media := by
    cases htype : sectionType (afterMedia s.mediaType media) with
    | none =>
        rw [htype] at h
        cases h
        rfl
    | some type =>
        rw [htype] at h
        obtain ⟨e', -, h⟩ := bind_eq_ok.mp h
        cases h
        rfl
  rw [applyLine_mediaType, hmediaType, afterMedia_eq hmedia]

/-- The loop comes to the end exactly if all lines are accepted. -/
theorem parseLines_isOk_iff {s : RemoteSdp} (lines : List Bytes) :
    (∃ s', s.parseLines lines = .ok s') ↔ AcceptedLines s.mediaType lines := by
  induction lines generalizing s with
  | nil => exact ⟨fun _ => trivial, fun _ => ⟨s, rfl⟩⟩
  | cons line lines ih =>
      rw [AcceptedLines, ← lineEffect_isOk_iff]
      cases he : lineEffect s.mediaType line with
      | ok e =>
          rw [parseLines_of_ok he, ih, lineEffect_mediaType he]
          exact ⟨fun h => ⟨⟨e, rfl⟩, h⟩, fun h => h.2⟩
      | error failure =>
          obtain ⟨media, herror⟩ := parseLines_of_error he lines
          rw [herror]
          simp

/-- An exception leaves the loop exactly if the lines are not safe. -/
theorem parseLines_outOfRange_iff {s : RemoteSdp} (lines : List Bytes) :
    (∃ s', s.parseLines lines = .error (.outOfRange, s')) ↔ ¬ SafeLines s.mediaType lines := by
  induction lines generalizing s with
  | nil => simp [RemoteSdp.parseLines, SafeLines]
  | cons line lines ih =>
      rw [SafeLines, ← lineEffect_isOk_iff, not_and_or, ← lineEffect_outOfRange_iff]
      cases he : lineEffect s.mediaType line with
      | ok e =>
          rw [parseLines_of_ok he, ih, lineEffect_mediaType he]
          simp
      | error failure =>
          obtain ⟨media, herror⟩ := parseLines_of_error he lines
          rw [herror]
          simp

/-! ### The description of accepted lines -/

/-- The section that a line starts. -/
def namedSection (line : Bytes) : Option MediaType :=
  if IsMedia line then sectionType ((firstField line).drop 2) else none

/-- The group of a line. -/
def bundleOf (line : Bytes) : Option ContentGroup :=
  if ascii "m=group:BUNDLE" <:+: line then
    match split space [] line with
    | _ :: name :: names =>
        some ((name :: names).foldl ContentGroup.addContentName ⟨ascii "BUNDLE", []⟩)
    | _ => none
  else none

/-- A section has a line that is taken as a fingerprint. -/
def HasFingerprint (type : MediaType) : (mediaType : Bytes) → List Bytes → Prop
  | _, [] => False
  | mediaType, line :: lines =>
      (sectionType (mediaTypeAfter mediaType line) = some type ∧ IsFingerprint line) ∨
        HasFingerprint type (mediaTypeAfter mediaType line) lines

/-- The lines can be searched for a fingerprint line in a section of the type. -/
instance decidableHasFingerprint (type : MediaType) :
    ∀ mediaType lines, Decidable (HasFingerprint type mediaType lines)
  | _, [] => isFalse id
  | mediaType, line :: lines =>
      have := decidableHasFingerprint type (mediaTypeAfter mediaType line) lines
      inferInstanceAs (Decidable (_ ∨ _))

/-- The three things that a line can do in the first part: nothing, name a BUNDLE group, or begin
a section. The two readings of the line, as a section and as a group, agree with it. -/
theorem mediaEffect_cases {line : Bytes} {e : MediaEffect} (h : mediaEffect line = .ok e) :
    (e = .nothing ∧ namedSection line = none ∧ bundleOf line = none) ∨
      (∃ g, e = .group g ∧ namedSection line = none ∧ bundleOf line = some g) ∨
      (∃ mediaType, e = .enter mediaType ∧ namedSection line = sectionType mediaType ∧
        bundleOf line = none) := by
  by_cases hm : IsMedia line
  · rw [mediaEffect_of_isMedia hm] at h
    split_ifs at h
    cases h
    exact .inr (.inr ⟨_, rfl, if_pos hm, if_neg hm.2⟩)
  · have hnamed : namedSection line = none := if_neg hm
    unfold mediaEffect at h
    unfold bundleOf
    by_cases hgroup : ascii "m=group:BUNDLE" <:+: line
    · rw [if_pos (contains_iff.mpr hgroup)] at h
      rw [if_pos hgroup]
      revert h
      rcases split space [] line with _ | ⟨item, _ | ⟨name, names⟩⟩ <;> intro h <;> cases h
      · exact .inl ⟨rfl, hnamed, rfl⟩
      · exact .inl ⟨rfl, hnamed, rfl⟩
      · exact .inr (.inl ⟨_, rfl, hnamed, rfl⟩)
    · have hmedia : ¬ ascii "m=" <:+: line := fun hmedia => hm ⟨hmedia, hgroup⟩
      rw [if_neg (fun hc => hgroup (contains_iff.mp hc)),
        if_neg (fun hc => hmedia (contains_iff.mp hc))] at h
      cases h
      exact .inl ⟨rfl, hnamed, if_neg hgroup⟩

/-- A section that is entered gets its name. -/
theorem enter_eq (s : RemoteSdp) (mediaType : Bytes) :
    s.enter mediaType =
      match sectionType mediaType with
      | none => { s with mediaType }
      | some type =>
          setSection { s with mediaType, contents := s.contents ++ [type] } type
            { sectionAt s type with td := { (sectionAt s type).td with mid := type.mid } } := by
  unfold RemoteSdp.enter sectionType
  dsimp only
  split_ifs <;> rfl

/-- The section that was set is the one that was named, and the other one stays. -/
theorem sectionAt_setSection (s : RemoteSdp) (type type' : MediaType) (sec : RemoteSection) :
    sectionAt (setSection s type sec) type' = if type' = type then sec else sectionAt s type' := by
  cases type <;> cases type' <;> rfl

/-- The name of a section is set as soon as it is in the description. -/
def Named (s : RemoteSdp) : Prop :=
  ∀ type, (sectionAt s type).td.mid = if type ∈ s.contents then type.mid else []

/-- What an effect on the description changes: a section that was named is opened, a group is
added, and the fingerprints stay. -/
theorem applyMedia_spec {s : RemoteSdp} {line : Bytes} {e : MediaEffect}
    (h : mediaEffect line = .ok e) :
    (applyMedia s e).contents = s.contents ++ (namedSection line).toList ∧
      (applyMedia s e).contentGroups = s.contentGroups ++ (bundleOf line).toList ∧
      (∀ type, (sectionAt (applyMedia s e) type).td.identityFingerprint
        = (sectionAt s type).td.identityFingerprint) ∧
      (Named s → Named (applyMedia s e)) := by
  -- another line, a group, or an `m=` line
  rcases mediaEffect_cases h with ⟨rfl, hnamed, hgroup⟩ | ⟨g, rfl, hnamed, hgroup⟩ |
    ⟨mediaType, rfl, hnamed, hgroup⟩
  · rw [hnamed, hgroup]
    simp [applyMedia]
  · rw [hnamed, hgroup]
    refine ⟨by simp [applyMedia], rfl, fun type => ?_, fun hs type => ?_⟩
    · cases type <;> rfl
    · have hmid := hs type
      cases type <;> exact hmid
  · rw [hnamed, hgroup]
    show (s.enter mediaType).contents = _ ∧ (s.enter mediaType).contentGroups = _ ∧
      (∀ type, (sectionAt (s.enter mediaType) type).td.identityFingerprint = _) ∧
      (Named s → Named (s.enter mediaType))
    rw [enter_eq]
    cases htype : sectionType mediaType with
    | none =>
        -- a media type that is not known opens no section
        refine ⟨by simp, by simp, fun type => ?_, fun hs type => ?_⟩
        · cases type <;> rfl
        · have hmid := hs type
          cases type <;> exact hmid
    | some type =>
        dsimp only
        refine ⟨by simp, by simp, fun type' => ?_, fun hs type' => ?_⟩
        · rw [sectionAt_setSection]
          split
          · rename_i heq
            rw [heq]
          · cases type' <;> rfl
        · have hmid := hs type'
          rw [sectionAt_setSection]
          by_cases heq : type' = type
          · simp [heq]
          · have hat : sectionAt
                { s with mediaType := mediaType, contents := s.contents ++ [type] } type'
                = sectionAt s type' := by cases type' <;> rfl
            rw [if_neg heq, hat, hmid]
            simp [heq]

/-- The name of a transport never changes, and it gets a fingerprint exactly from a fingerprint
line. -/
theorem transportEffect_fingerprint {line : Bytes} {t : TransportEffect}
    (h : transportEffect line = .ok t) (td : TransportDescription) :
    (applyTransport td t).mid = td.mid ∧
      ((applyTransport td t).identityFingerprint.isSome ↔
        td.identityFingerprint.isSome ∨ IsFingerprint line) := by
  -- the three keys are looked for in this order, and the first that is there decides
  unfold transportEffect at h
  unfold IsFingerprint
  by_cases hufrag : ascii "a=ice-ufrag" <:+: line
  · rw [if_pos (contains_iff.mpr hufrag)] at h
    unfold nonEmpty at h
    split at h
    · cases h
    · cases h
      simp [applyTransport, hufrag]
  · rw [if_neg (fun hc => hufrag (contains_iff.mp hc))] at h
    by_cases hpwd : ascii "a=ice-pwd" <:+: line
    · rw [if_pos (contains_iff.mpr hpwd)] at h
      unfold nonEmpty at h
      split at h
      · cases h
      · cases h
        simp [applyTransport, hpwd]
    · rw [if_neg (fun hc => hpwd (contains_iff.mp hc))] at h
      by_cases hfp : ascii "a=fingerprint" <:+: line
      · rw [if_pos (contains_iff.mpr hfp)] at h
        -- a line of a fingerprint has two fields, or it is rejected
        revert h
        rcases tokenize space [] line with _ | ⟨item, _ | ⟨content, _ | _⟩⟩ <;> intro h
        case cons.cons.nil =>
          obtain ⟨alg, -, h⟩ := bind_eq_ok.mp h
          obtain ⟨fp, -, h⟩ := bind_eq_ok.mp h
          cases h
          simp [applyTransport, hufrag, hpwd, hfp]
        all_goals cases h
      · rw [if_neg (fun hc => hfp (contains_iff.mp hc))] at h
        cases h
        simp [applyTransport, hfp]

/-- What a line changes: its section and its group are added to those there are, and its
fingerprint goes to the section it is in. -/
theorem applyLine_spec {s : RemoteSdp} {line : Bytes} {e : LineEffect}
    (h : lineEffect s.mediaType line = .ok e) :
    (applyLine s e).contents = s.contents ++ (namedSection line).toList ∧
      (applyLine s e).contentGroups = s.contentGroups ++ (bundleOf line).toList ∧
      (∀ type, (sectionAt (applyLine s e) type).td.identityFingerprint.isSome ↔
        (sectionAt s type).td.identityFingerprint.isSome ∨
          (sectionType (mediaTypeAfter s.mediaType line) = some type ∧ IsFingerprint line)) ∧
      (Named s → Named (applyLine s e)) := by
  obtain ⟨media, hmedia, h⟩ := bind_eq_ok.mp h
  -- first the group or section of the line, then the line in the section it is in
  obtain ⟨hcontents, hgroups, hfingerprint, hnamed⟩ := applyMedia_spec (s := s) hmedia
  rw [afterMedia_eq hmedia] at h
  cases htype : sectionType (mediaTypeAfter s.mediaType line) with
  | none =>
      rw [htype] at h
      cases h
      -- in no known section the rest of the line is not looked at
      refine ⟨hcontents, hgroups, fun type => ?_, hnamed⟩
      show (sectionAt (applyMedia s media) type).td.identityFingerprint.isSome ↔ _
      rw [hfingerprint]
      simp
  | some type =>
      rw [htype] at h
      obtain ⟨e', hsection, h⟩ := bind_eq_ok.mp h
      cases h
      obtain ⟨t, ht, hsection⟩ := bind_eq_ok.mp hsection
      have htransport : e'.transport = t := by
        obtain ⟨g, -, hsection⟩ := bind_eq_ok.mp hsection
        obtain ⟨r, -, hsection⟩ := bind_eq_ok.mp hsection
        cases hsection
        rfl
      unfold applyLine
      dsimp only
      refine ⟨by rw [setSection_contents, hcontents], by rw [setSection_contentGroups, hgroups],
        fun type' => ?_, fun hs type' => ?_⟩
      · rw [sectionAt_setSection]
        by_cases heq : type' = type
        · subst heq
          have hspec := transportEffect_fingerprint ht (sectionAt (applyMedia s media) type').td
          rw [if_pos rfl]
          show (applyTransport (sectionAt (applyMedia s media) type').td
            e'.transport).identityFingerprint.isSome ↔ _
          rw [htransport, hspec.2, hfingerprint]
          simp
        · rw [if_neg heq, hfingerprint]
          simp [Ne.symm heq]
      · have hmid := hnamed hs type'
        rw [sectionAt_setSection, setSection_contents, ← hmid]
        by_cases heq : type' = type
        · subst heq
          have hspec := transportEffect_fingerprint ht (sectionAt (applyMedia s media) type').td
          rw [if_pos rfl]
          show (applyTransport (sectionAt (applyMedia s media) type').td e'.transport).mid = _
          rw [htransport, hspec.1]
        · rw [if_neg heq]

/-- What accepted lines make of the local objects, by induction on them: the sections and groups
in their order, and a fingerprint where some line has one. -/
theorem parseLines_spec {s s' : RemoteSdp} (lines : List Bytes) (h : s.parseLines lines = .ok s') :
    s'.contents = s.contents ++ lines.filterMap namedSection ∧
      s'.contentGroups = s.contentGroups ++ lines.filterMap bundleOf ∧
      (∀ type, (sectionAt s' type).td.identityFingerprint.isSome ↔
        (sectionAt s type).td.identityFingerprint.isSome ∨
          HasFingerprint type s.mediaType lines) ∧
      (Named s → Named s') := by
  -- on the lines, from any local objects
  induction lines generalizing s with
  | nil =>
      cases h
      simp [HasFingerprint]
  | cons line lines ih =>
      cases he : lineEffect s.mediaType line with
      | error failure =>
          obtain ⟨media, herror⟩ := parseLines_of_error he lines
          rw [herror] at h
          cases h
      | ok e =>
          rw [parseLines_of_ok he] at h
          obtain ⟨hcontents, hgroups, hfingerprint, hnamed⟩ := ih h
          obtain ⟨hcontents', hgroups', hfingerprint', hnamed'⟩ := applyLine_spec he
          refine ⟨?_, ?_, fun type => ?_, fun hs => hnamed (hnamed' hs)⟩
          · rw [hcontents, hcontents', List.append_assoc]
            congr 1
            rw [List.filterMap_cons]
            cases namedSection line <;> rfl
          · rw [hgroups, hgroups', List.append_assoc]
            congr 1
            rw [List.filterMap_cons]
            cases bundleOf line <;> rfl
          · rw [hfingerprint, hfingerprint', lineEffect_mediaType he, HasFingerprint, or_assoc]

end Xrtc.Proofs.Pc
