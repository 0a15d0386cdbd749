import Xrtc.Proofs.Pc.LastCharacter
import Xrtc.Proofs.Pc.SameTracks

/-!
# `Xrtc.Proofs.Pc.LastSsrc`: a line about ssrcs with one character more

The second part of `Xrtc.Proofs.Pc.LastCharacter`: what a section says about its ssrcs, and the
groups of them. The tracks of the section show this, but not all of it, since the name and the
stream of a track are those of its last entry, and a group shows only at a track with its first
ssrc. So the conditions (`SsrcKept`, `GroupKept`) look at the entries that the section has
before the line. `ssrc_concat_iff` and `group_concat_iff` say that they are exact.
-/

set_option autoImplicit false

namespace Xrtc.Proofs.Pc

open Xrtc.Base
open Xrtc.Lib
open Xrtc.Ice (ascii colon split)
open Xrtc.Pc
open Xrtc.Proofs.Base

/-! ### Ssrcs -/

/-- The ssrc that a line is about. -/
def ssrcOf (line : Bytes) : Option UInt32 :=
  fromString (((line.drop 2).takeWhile (· ≠ space)).drop 5)

/-- The attribute of a line about an ssrc, and its value. -/
def ssrcAttribute (line : Bytes) : Option (Bytes × Bytes) := do
  let (_, field2) ← tokenizeFirst space (line.drop 2)
  tokenizeFirst colon field2

/-- The entries of a section, from that of an ssrc on. -/
def entriesFrom (ssrc : UInt32) (infos : List SsrcInfo) : List SsrcInfo :=
  infos.dropWhile (·.ssrcId ≠ ssrc)

/-- What a line says about its ssrc is known already, or a later entry of the track hides it. -/
def SsrcSet (infos : List SsrcInfo) (line : Bytes) : Prop :=
  ascii "a=ssrc:" <:+: line → ∃ ssrc attr value entry later, ssrcOf line = some ssrc ∧
    ssrcAttribute line = some (attr, value) ∧ entriesFrom ssrc infos = entry :: later ∧
      (attr = ascii "cname" → entry.cname = value ∨ Hidden entry later) ∧
      (attr = ascii "msid" → (∀ trackId ∈ (split space [] value)[1]?, trackId = entry.trackId) ∧
        ((split space [] value).head? = some entry.streamId ∨ Hidden entry later))

/-- The last character of a name or a stream changes nothing. It is a colon that is skipped; or
it starts an empty track id, and there is no other one; or a later entry of the track hides the
value, which may not have a track id of its own. -/
def ValueKept (attr value : Bytes) (c : UInt8) (entries : List SsrcInfo) : Prop :=
  (value = [] ∧ c = colon) ∨
    (attr = ascii "msid" ∧ space ∉ value ∧ c = space ∧
      ∀ entry ∈ entries.head?, entry.trackId = []) ∨
    (¬ (attr = ascii "msid" ∧ (space ∈ value ∨ c = space)) ∧
      ∃ entry later, entries = entry :: later ∧ Hidden entry later)

/-- The last character changes nothing of what is known about ssrcs. If it completes the key,
the line says nothing new. -/
def SsrcKept (infos : List SsrcInfo) (x : Bytes) (c : UInt8) : Prop :=
  ascii "a=ssrc:" <:+: x ++ [c] →
    if ascii "a=ssrc:" <:+: x then
      ∀ ssrc attr value, ssrcOf x = some ssrc → ssrcAttribute x = some (attr, value) →
        attr = ascii "cname" ∨ attr = ascii "msid" →
          ValueKept attr value c (entriesFrom ssrc infos)
    else SsrcSet infos (x ++ [c])

/-- What a line says about an ssrc, with the reason. -/
inductive SsrcReading (line : Bytes) : Option (UInt32 × SsrcAttribute) → Prop
  | said (hkey : ascii "a=ssrc:" <:+: line) {ssrc : UInt32} {attr value : Bytes}
      {a : SsrcAttribute} (hssrc : ssrcOf line = some ssrc)
      (hattr : ssrcAttribute line = some (attr, value))
      (ha : parseSsrcAttribute attr value = .ok a) : SsrcReading line (some (ssrc, a))
  | nothing (hkey : ¬ ascii "a=ssrc:" <:+: line) : SsrcReading line none

/-- What a line says about a stream, by the conditions on its bytes. -/
theorem ssrcReading_of_ok {line : Bytes} {r : Option (UInt32 × SsrcAttribute)}
    (h : ssrcEffect line = .ok r) : SsrcReading line r := by
  unfold ssrcEffect at h
  split at h
  · rename_i hkey
    obtain ⟨⟨ssrc, field2⟩, hid, hrest⟩ := bind_eq_ok.mp h
    obtain ⟨⟨attr, value⟩, hattr, hrest'⟩ := bind_eq_ok.mp hrest
    obtain ⟨a, ha, hpure⟩ := bind_eq_ok.mp hrest'
    cases hpure
    unfold parseSsrcId at hid
    obtain ⟨⟨field1, field2'⟩, hfields, hid'⟩ := bind_eq_ok.mp hid
    obtain ⟨text, htext, hid''⟩ := bind_eq_ok.mp hid'
    obtain ⟨ssrc', hssrc, hpure⟩ := bind_eq_ok.mp hid''
    cases hpure
    obtain ⟨-, rfl⟩ := substr_eq_some.mp (orElse_eq_ok.mp htext)
    have hfields := orElse_eq_ok.mp hfields
    refine .said (contains_iff.mp hkey) ?_ ?_ ha
    · have hfirst : field1 = (line.drop 2).takeWhile (· ≠ space) := by
        unfold tokenizeFirst at hfields
        split at hfields
        · cases hfields
        · exact (Prod.mk.inj (Option.some.inj hfields)).1.symm
      rw [ssrcOf, ← hfirst]
      exact orElse_eq_ok.mp hssrc
    · rw [ssrcAttribute, hfields]
      exact orElse_eq_ok.mp hattr
  · rename_i hkey
    cases h
    exact .nothing fun hinfix => hkey (contains_iff.mpr hinfix)

/-- The entries when a line has been read. -/
def withSsrc (r : Option (UInt32 × SsrcAttribute)) (infos : List SsrcInfo) : List SsrcInfo :=
  match r with
  | none => infos
  | some (ssrc, a) => setSsrcInfo ssrc a infos

/-- The entry that is changed: that of the ssrc, or a new one. -/
def entryOf (ssrc : UInt32) (infos : List SsrcInfo) : SsrcInfo :=
  (entriesFrom ssrc infos).headD { ssrcId := ssrc }

/-- The entries around the one that is changed. -/
theorem setSsrcInfo_eq_append (ssrc : UInt32) (infos : List SsrcInfo) :
    ∃ before, infos = before ++ entriesFrom ssrc infos ∧ ∀ a, setSsrcInfo ssrc a infos =
      before ++ (entryOf ssrc infos).set a :: (entriesFrom ssrc infos).tail := by
  induction infos with
  | nil => exact ⟨[], rfl, fun a => rfl⟩
  | cons info infos ih =>
      by_cases hinfo : info.ssrcId = ssrc
      · have hentries : entriesFrom ssrc (info :: infos) = info :: infos :=
          List.dropWhile_cons_of_neg (by simpa using hinfo)
        refine ⟨[], by rw [hentries]; rfl, fun a => ?_⟩
        rw [setSsrcInfo, if_pos hinfo, entryOf, hentries]
        rfl
      · have hentries : entriesFrom ssrc (info :: infos) = entriesFrom ssrc infos :=
          List.dropWhile_cons_of_pos (by simpa using hinfo)
        obtain ⟨before, hinfos, hset⟩ := ih
        refine ⟨info :: before, ?_, fun a => ?_⟩
        · rw [hentries, List.cons_append, ← hinfos]
        · rw [setSsrcInfo, if_neg hinfo, hset, entryOf, entryOf, hentries]
          rfl

/-- An attribute does not rename its stream. -/
theorem set_ssrcId (info : SsrcInfo) (a : SsrcAttribute) : (info.set a).ssrcId = info.ssrcId := by
  cases a <;> rfl

/-- The entry of a stream has its SSRC, also where it is a new one. -/
theorem entryOf_ssrcId (ssrc : UInt32) (infos : List SsrcInfo) :
    (entryOf ssrc infos).ssrcId = ssrc := by
  unfold entryOf
  cases hentries : entriesFrom ssrc infos with
  | nil => rfl
  | cons entry later =>
      have hhead := List.head?_dropWhile_not (fun info : SsrcInfo => info.ssrcId ≠ ssrc) infos
      unfold entriesFrom at hentries
      rw [hentries] at hhead
      simpa using hhead

/-- The ssrcs that are known are those from before and that of the line. -/
theorem exists_withSsrc_iff (r : Option (UInt32 × SsrcAttribute)) (infos : List SsrcInfo)
    (ssrc : UInt32) : (∃ info ∈ withSsrc r infos, info.ssrcId = ssrc) ↔
      (∃ info ∈ infos, info.ssrcId = ssrc) ∨ ∃ a, r = some (ssrc, a) := by
  rcases r with _ | ⟨ssrc', a⟩
  · simp [withSsrc]
  obtain ⟨before, hinfos, hset⟩ := setSsrcInfo_eq_append ssrc' infos
  have hentry := entryOf_ssrcId ssrc' infos
  have hids : (∃ info ∈ infos, info.ssrcId = ssrc) ↔ (∃ info ∈ before, info.ssrcId = ssrc) ∨
      (entriesFrom ssrc' infos ≠ [] ∧ ssrc' = ssrc) ∨
        ∃ info ∈ (entriesFrom ssrc' infos).tail, info.ssrcId = ssrc := by
    unfold entryOf at hentry
    conv_lhs => rw [hinfos]
    cases hentries : entriesFrom ssrc' infos with
    | nil => simp
    | cons entry later =>
        rw [hentries] at hentry
        simp only [List.headD_cons] at hentry
        simp [or_and_right, exists_or, hentry]
  rw [withSsrc, hset, hids]
  simp only [List.mem_append, List.mem_cons, or_and_right, exists_or, exists_eq_left, set_ssrcId,
    hentry, Option.some.injEq, Prod.mk.injEq, exists_and_left, exists_eq', and_true]
  by_cases hid : ssrc' = ssrc
  · simp [hid]
  · simp [hid]

/-- Two attributes of an ssrc, in the place of the last line. -/
theorem createTracks_setSsrcInfo_iff (ssrc : UInt32) (a a' : SsrcAttribute)
    (infos : List SsrcInfo) :
    createTrackFromSsrcInfo (setSsrcInfo ssrc a infos) =
        createTrackFromSsrcInfo (setSsrcInfo ssrc a' infos) ↔
      (entryOf ssrc infos).set a = (entryOf ssrc infos).set a' ∨
        (((entryOf ssrc infos).set a).trackId = ((entryOf ssrc infos).set a').trackId ∧
          Hidden ((entryOf ssrc infos).set a) (entriesFrom ssrc infos).tail) := by
  obtain ⟨before, -, hset⟩ := setSsrcInfo_eq_append ssrc infos
  rw [hset, hset]
  exact createTracks_replace_iff (by rw [set_ssrcId, set_ssrcId])

/-- An attribute shows nothing exactly if its value is known, or hidden: the stream and the
`cname` of a track are those of its last entry, and an earlier one is not seen. -/
theorem set_shows_nothing_iff {attr value : Bytes} {a : SsrcAttribute}
    (ha : parseSsrcAttribute attr value = .ok a) (entry : SsrcInfo) (later : List SsrcInfo) :
    (entry.set a = entry ∨ ((entry.set a).trackId = entry.trackId ∧ Hidden (entry.set a) later)) ↔
      (attr = ascii "cname" → entry.cname = value ∨ Hidden entry later) ∧
      (attr = ascii "msid" → (∀ trackId ∈ (split space [] value)[1]?, trackId = entry.trackId) ∧
        ((split space [] value).head? = some entry.streamId ∨ Hidden entry later)) := by
  have hne : ascii "cname" ≠ ascii "msid" := by decide +kernel
  obtain ⟨ssrcId, cname, streamId, trackId⟩ := entry
  unfold parseSsrcAttribute at ha
  -- one case for each attribute that is kept, and one for all others
  split_ifs at ha with hcname hmsid
  · cases ha
    simp [hcname, hne, SsrcInfo.set, Hidden, eq_comm]
  · subst hmsid
    unfold parseMsid at ha
    rcases hsplit : split space [] value with _ | ⟨streamId', _ | ⟨trackId', _ | _⟩⟩ <;>
      rw [hsplit] at ha <;> cases ha
    · simp [Ne.symm hne, SsrcInfo.set, Hidden, eq_comm]
    · simp only [SsrcInfo.set, Hidden, Option.getD_some, Ne.symm hne]
      constructor
      · rintro (heq | ⟨rfl, hhidden⟩)
        · cases heq
          simp
        · simp [hhidden]
      · rintro ⟨-, hall⟩
        obtain ⟨htrack, hstream⟩ := hall trivial
        obtain rfl : trackId' = trackId := htrack trackId' rfl
        rcases hstream with hstream | hhidden
        · cases hstream
          exact .inl rfl
        · exact .inr ⟨rfl, hhidden⟩
  · cases ha
    simp [hcname, hmsid, SsrcInfo.set]

/-- A line leaves the tracks as they are exactly if it says nothing new. -/
theorem SsrcReading.set_iff {line : Bytes} {r : Option (UInt32 × SsrcAttribute)}
    (h : SsrcReading line r) (infos : List SsrcInfo) :
    createTrackFromSsrcInfo (withSsrc r infos) = createTrackFromSsrcInfo infos ↔
      SsrcSet infos line := by
  cases h with
  | nothing hkey => exact iff_of_true rfl fun h => absurd h hkey
  | @said hkey ssrc attr value a hssrc hattr ha =>
      obtain ⟨before, hinfos, hset⟩ := setSsrcInfo_eq_append ssrc infos
      have hcases : SsrcSet infos line ↔ ∃ entry later, entriesFrom ssrc infos = entry :: later ∧
          (entry.set a = entry ∨
            ((entry.set a).trackId = entry.trackId ∧ Hidden (entry.set a) later)) := by
        constructor
        · intro h
          obtain ⟨ssrc', attr', value', entry, later, hssrc', hattr', hentries, hshows⟩ := h hkey
          rw [hssrc] at hssrc'
          rw [hattr] at hattr'
          cases hssrc'
          cases hattr'
          exact ⟨entry, later, hentries, (set_shows_nothing_iff ha entry later).mpr hshows⟩
        · rintro ⟨entry, later, hentries, hshows⟩ -
          exact ⟨ssrc, attr, value, entry, later, hssrc, hattr, hentries,
            (set_shows_nothing_iff ha entry later).mp hshows⟩
      rw [hcases]
      cases hentries : entriesFrom ssrc infos with
      | nil =>
          -- a new entry shows
          have hnew : withSsrc (some (ssrc, a)) infos = infos ++ [(entryOf ssrc infos).set a] := by
            rw [withSsrc, hset, hentries, List.tail_nil]
            rw [hentries, List.append_nil] at hinfos
            rw [← hinfos]
          rw [hnew]
          refine iff_of_false (createTracks_concat_ne infos _) ?_
          rintro ⟨entry, later, hcons, -⟩
          cases hcons
      | cons entry later =>
          have hold : createTrackFromSsrcInfo infos =
              createTrackFromSsrcInfo (before ++ entry :: later) := by
            rw [← hentries, ← hinfos]
          have hentry : entryOf ssrc infos = entry := by
            rw [entryOf, hentries]
            rfl
          rw [withSsrc, hset, hentry, hentries, List.tail_cons, hold,
            createTracks_replace_iff (set_ssrcId entry a)]
          constructor
          · intro hshows
            exact ⟨entry, later, rfl, hshows⟩
          · rintro ⟨entry', later', hcons, hshows⟩
            cases hcons
            exact hshows

/-- What a line with one character more says about the ssrc: the value is longer, unless the
character is a colon that is skipped. -/
theorem ssrc_concat {x : Bytes} {ssrc : UInt32} {attr value : Bytes}
    (hkey : ascii "a=ssrc:" <:+: x) (hssrc : ssrcOf x = some ssrc)
    (hattr : ssrcAttribute x = some (attr, value)) (c : UInt8) :
    ssrcOf (x ++ [c]) = some ssrc ∧ ssrcAttribute (x ++ [c]) =
      some (attr, if value = [] ∧ c = colon then [] else value ++ [c]) := by
  have hlength : 2 ≤ x.length := by
    have hkeyLength : (ascii "a=ssrc:").length = 7 := by decide +kernel
    have hle := hkey.length_le
    omega
  have hdrop : (x ++ [c]).drop 2 = x.drop 2 ++ [c] := List.drop_append_of_le_length hlength
  unfold ssrcAttribute at hattr ⊢
  obtain ⟨⟨field1, field2⟩, hfields, hvalue⟩ := Option.bind_eq_some_iff.mp hattr
  have hne : field2 ≠ [] := by
    rintro rfl
    cases hvalue
  have hfields' := tokenizeFirst_concat hfields c
  rw [if_neg (fun h => hne h.1)] at hfields'
  -- the first field ends in front of the new character, the second one takes it
  constructor
  · have hfirst : ∀ {source a rest : Bytes}, tokenizeFirst space source = some (a, rest) →
        source.takeWhile (· ≠ space) = a := by
      intro source a rest h
      unfold tokenizeFirst at h
      split at h
      · cases h
      · exact (Prod.mk.inj (Option.some.inj h)).1
    unfold ssrcOf at hssrc ⊢
    rw [hdrop, hfirst hfields']
    rw [hfirst hfields] at hssrc
    exact hssrc
  · rw [hdrop, hfields']
    exact tokenizeFirst_concat hvalue c

/-- The fields of a value with one character more. -/
theorem split_value_concat {value : Bytes} (c : UInt8) {fields : List Bytes} {last : Bytes}
    (h : split space [] value = fields ++ [last]) :
    split space [] (value ++ [c]) =
      if c = space then fields ++ [last, []] else fields ++ [last ++ [c]] :=
  split_concat space c value [] fields last h

/-- An attribute whose value gets longer shows the same exactly under this condition. -/
theorem value_concat_iff {attr value : Bytes} {c : UInt8} {a a' : SsrcAttribute}
    (ha : parseSsrcAttribute attr value = .ok a)
    (ha' : parseSsrcAttribute attr (if value = [] ∧ c = colon then [] else value ++ [c]) = .ok a')
    (entries : List SsrcInfo) {entry : SsrcInfo} {fresh : SsrcInfo} (hfresh : fresh.trackId = [])
    (hentry : entries.headD fresh = entry) :
    (entry.set a = entry.set a' ∨ ((entry.set a).trackId = (entry.set a').trackId ∧
        Hidden (entry.set a) entries.tail)) ↔
      (attr = ascii "cname" ∨ attr = ascii "msid" → ValueKept attr value c entries) := by
  have hne : ascii "cname" ≠ ascii "msid" := by decide +kernel
  have hhidden : (∃ entry later, entries = entry :: later ∧ Hidden entry later) ↔
      Hidden entry entries.tail := by
    cases entries with
    | nil => simp [Hidden]
    | cons first later =>
        cases hentry
        constructor
        · rintro ⟨entry', later', hcons, hhidden⟩
          cases hcons
          exact hhidden
        · intro hhidden
          exact ⟨_, _, rfl, hhidden⟩
  have htrackId : (∀ entry ∈ entries.head?, entry.trackId = []) ↔ entry.trackId = [] := by
    cases entries with
    | nil =>
        cases hentry
        simp [hfresh]
    | cons first later =>
        cases hentry
        simp
  unfold ValueKept
  rw [hhidden, htrackId]
  by_cases hskip : value = [] ∧ c = colon
  · -- the colon is skipped
    rw [if_pos hskip, ← hskip.1, ha] at ha'
    cases ha'
    exact iff_of_true (.inl rfl) fun _ => .inl hskip
  rw [if_neg hskip] at ha'
  simp only [hskip, false_or]
  obtain ⟨ssrcId, cname, streamId, trackId⟩ := entry
  unfold parseSsrcAttribute at ha ha'
  by_cases hcname : attr = ascii "cname"
  · rw [if_pos hcname] at ha ha'
    cases ha
    cases ha'
    simp [hcname, hne, SsrcInfo.set, Hidden]
  rw [if_neg hcname] at ha ha'
  by_cases hmsid : attr = ascii "msid"
  case neg =>
    rw [if_neg hmsid] at ha ha'
    cases ha
    cases ha'
    exact iff_of_true (.inl rfl) fun h => (h.elim hcname hmsid).elim
  rw [if_pos hmsid] at ha ha'
  simp only [hmsid, true_and, or_true, forall_true_left]
  have hfields : (split space [] value).length = value.count space + 1 := length_split _ _ _
  unfold parseMsid at ha ha'
  -- one field, or two
  rcases hsplit : split space [] value with _ | ⟨streamId', _ | ⟨trackId', _ | _⟩⟩ <;>
    rw [hsplit] at ha hfields <;> cases ha
  · have hspace : space ∉ value := by
      rw [← List.count_eq_zero]
      simpa using hfields.symm
    rw [@split_value_concat value c [] _ hsplit] at ha'
    by_cases hc : c = space
    · rw [if_pos hc] at ha'
      cases ha'
      simp [hspace, hc, SsrcInfo.set]
      tauto
    · rw [if_neg hc] at ha'
      cases ha'
      simp [hspace, hc, SsrcInfo.set, Hidden]
  · have hspace : space ∈ value := by
      rw [← List.count_pos_iff]
      simp only [List.length_cons, List.length_nil] at hfields
      omega
    rw [@split_value_concat value c [streamId'] _ hsplit] at ha'
    by_cases hc : c = space
    · rw [if_pos hc] at ha'
      cases ha'
    · rw [if_neg hc] at ha'
      cases ha'
      simp [hspace, SsrcInfo.set]

/-- The two lines make the same tracks, apart from groups, exactly under this condition. -/
theorem ssrc_concat_iff {x : Bytes} {c : UInt8} {r r' : Option (UInt32 × SsrcAttribute)}
    (h : SsrcReading x r) (h' : SsrcReading (x ++ [c]) r') (infos : List SsrcInfo) :
    createTrackFromSsrcInfo (withSsrc r infos) = createTrackFromSsrcInfo (withSsrc r' infos) ↔
      SsrcKept infos x c := by
  have hread := h'.set_iff infos
  unfold SsrcKept
  -- a line that names no stream may do so with one character more, one that names one does
  cases h with
  | nothing hkey =>
      rw [if_neg hkey]
      cases h' with
      | nothing hkey' => exact iff_of_true rfl fun h => absurd h hkey'
      | said hkey' hssrc' hattr' ha' =>
          rw [← hread, withSsrc, eq_comm]
          exact ⟨fun h _ => h, fun h => h hkey'⟩
  | @said hkey ssrc attr value a hssrc hattr ha =>
      have hkey'' := infix_concat_of_within hkey c
      rw [if_pos hkey]
      obtain ⟨hlong, hlongAttr⟩ := ssrc_concat hkey hssrc hattr c
      cases h' with
      | nothing hkey' => exact absurd hkey'' hkey'
      | said hkey' hssrc' hattr' ha' =>
          rw [hlong] at hssrc'
          rw [hlongAttr] at hattr'
          cases hssrc'
          cases hattr'
          -- then both name the same stream and attribute, and the values are compared in its entry
          have hfresh : ({ ssrcId := ssrc } : SsrcInfo).trackId = [] := rfl
          have hvalue := value_concat_iff ha ha' (entriesFrom ssrc infos) hfresh rfl
          rw [withSsrc, withSsrc, createTracks_setSsrcInfo_iff]
          refine Iff.trans hvalue ?_
          constructor
          · intro hkept _ ssrc' attr' value' hssrc' hattr'
            rw [hssrc] at hssrc'
            rw [hattr] at hattr'
            cases hssrc'
            cases hattr'
            exact hkept
          · intro hkept
            exact hkept hkey'' ssrc attr value hssrc hattr

/-! ### Groups of ssrcs -/

/-- The first ssrc of the group of a line. -/
def firstGroupSsrc (line : Bytes) : Option UInt32 :=
  ((split space [] (line.drop 2))[1]?).bind fromString

/-- The section has no entry for the first ssrc of the group of a line, and the line itself is
about another ssrc. So no track gets the group. -/
def GroupUnseen (infos : List SsrcInfo) (line : Bytes) : Prop :=
  ascii "a=ssrc-group:" <:+: line → ∀ ssrc, firstGroupSsrc line = some ssrc →
    (∀ info ∈ infos, info.ssrcId ≠ ssrc) ∧
      ¬ (ascii "a=ssrc:" <:+: line ∧ ssrcOf line = some ssrc)

/-- A number stays the same with a character behind it: it ends at a null character, or it is
zero and so is the character. -/
def NumberKept (text : Bytes) (c : UInt8) : Prop :=
  0 ∈ text ++ [c] ∨ (fromString text = some 0 ∧ c = 0x30)

/-- The last character changes no group of ssrcs: the last number stays the same, or neither
line has a group that a track gets. -/
def GroupKept (infos : List SsrcInfo) (x : Bytes) (c : UInt8) : Prop :=
  (ascii "a=ssrc-group:" <:+: x ∧ NumberKept ((split space [] (x.drop 2)).getLastD []) c) ∨
    (GroupUnseen infos x ∧ GroupUnseen infos (x ++ [c]))

/-- The group of a line, with the reason. -/
inductive GroupReading (line : Bytes) : Option SsrcGroup → Prop
  | group (hkey : ascii "a=ssrc-group:" <:+: line) {g : SsrcGroup}
      (hg : parseSsrcGroup line = some g) : GroupReading line (some g)
  | nothing (hkey : ¬ ascii "a=ssrc-group:" <:+: line) : GroupReading line none

/-- What a line says about a group of streams, by the conditions on its bytes. -/
theorem groupReading_of_ok {line : Bytes} {g : Option SsrcGroup} (h : ssrcGroupEffect line = .ok g) :
    GroupReading line g := by
  unfold ssrcGroupEffect at h
  split at h
  · rename_i hkey
    cases hparse : parseSsrcGroup line with
    | none =>
        rw [hparse] at h
        cases h
    | some group =>
        rw [hparse] at h
        cases h
        exact .group (contains_iff.mp hkey) hparse
  · rename_i hkey
    cases h
    exact .nothing fun hinfix => hkey (contains_iff.mpr hinfix)

/-- What is read of the fields of a group. -/
theorem parseSsrcGroup_fields {line : Bytes} {g : SsrcGroup} (h : parseSsrcGroup line = some g) :
    ∃ name fields, split space [] (line.drop 2) = name :: fields ∧ fields ≠ [] ∧
      fields.mapM fromString = some g.ssrcs ∧ g.semantics = getAttribute name := by
  unfold parseSsrcGroup at h
  rcases hsplit : split space [] (line.drop 2) with _ | ⟨name, _ | ⟨ssrc, ssrcs⟩⟩ <;>
    rw [hsplit] at h
  · cases h
  · cases h
  · obtain ⟨ids, hids, hrest⟩ := Option.bind_eq_some_iff.mp h
    split_ifs at hrest
    cases hrest
    exact ⟨name, ssrc :: ssrcs, rfl, List.cons_ne_nil _ _, hids, rfl⟩

/-- A group has a first stream, which is read off the line. -/
theorem head?_ssrcs {line : Bytes} {g : SsrcGroup} (h : parseSsrcGroup line = some g) :
    ∃ ssrc ssrcs, g.ssrcs = ssrc :: ssrcs ∧ firstGroupSsrc line = some ssrc := by
  obtain ⟨name, fields, hsplit, hne, hids, -⟩ := parseSsrcGroup_fields h
  obtain ⟨field, fields, rfl⟩ := List.exists_cons_of_ne_nil hne
  rw [List.mapM_cons] at hids
  obtain ⟨ssrc, hssrc, hrest⟩ := Option.bind_eq_some_iff.mp hids
  obtain ⟨ssrcs, -, hcons⟩ := Option.bind_eq_some_iff.mp hrest
  cases g
  cases hcons
  refine ⟨ssrc, ssrcs, rfl, ?_⟩
  rw [firstGroupSsrc, hsplit]
  exact hssrc

/-- No track gets the group of a line exactly if its first ssrc is not known. -/
theorem GroupReading.unseen_iff {line : Bytes} {g : Option SsrcGroup} (h : GroupReading line g)
    {r : Option (UInt32 × SsrcAttribute)} (hr : SsrcReading line r) (infos : List SsrcInfo) :
    Unseen (createTrackFromSsrcInfo (withSsrc r infos)) g ↔ GroupUnseen infos line := by
  cases h with
  | nothing hkey =>
      refine iff_of_true ?_ fun h => absurd h hkey
      intro g hg
      cases hg
  | @group hkey g hg =>
      obtain ⟨ssrc, ssrcs, hssrcs, hfirst⟩ := head?_ssrcs hg
      have hsaid : (∃ a, r = some (ssrc, a)) ↔ ascii "a=ssrc:" <:+: line ∧ ssrcOf line = some ssrc := by
        cases hr with
        | nothing hnokey => simp [hnokey]
        | said hssrcKey hssrc hattr ha => simp [hssrcKey, hssrc]
      have hknown := exists_track_iff (withSsrc r infos) ssrc
      rw [exists_withSsrc_iff, hsaid] at hknown
      have hunseen : Unseen (createTrackFromSsrcInfo (withSsrc r infos)) (some g) ↔
          ¬ ∃ track ∈ createTrackFromSsrcInfo (withSsrc r infos), track.hasSsrc ssrc = true := by
        simp [Unseen, startsIn, hssrcs]
      rw [hunseen, hknown, not_or]
      simp [GroupUnseen, hkey, hfirst]

/-- The groups of the two lines are the same exactly if the last number is. -/
theorem parseSsrcGroup_concat {x : Bytes} {c : UInt8} {g g' : SsrcGroup} (hlength : 2 ≤ x.length)
    (h : parseSsrcGroup x = some g) (h' : parseSsrcGroup (x ++ [c]) = some g') :
    g = g' ↔ NumberKept ((split space [] (x.drop 2)).getLastD []) c := by
  obtain ⟨name, fields, hsplit, hne, hids, hsemantics⟩ := parseSsrcGroup_fields h
  obtain ⟨name', fields', hsplit', -, hids', hsemantics'⟩ := parseSsrcGroup_fields h'
  obtain ⟨front, last, rfl⟩ := (List.eq_nil_or_concat' fields).resolve_left hne
  have hlong := split_concat space c (x.drop 2) [] (name :: front) last hsplit
  rw [List.drop_append_of_le_length hlength, hlong] at hsplit'
  have happend : ∀ (front : List Bytes) (last : Bytes) (ids : List UInt32),
      (front ++ [last]).mapM fromString = some ids → ∃ ids' id, front.mapM fromString = some ids' ∧
        fromString last = some id ∧ ids = ids' ++ [id] := by
    intro front last ids hids
    rw [List.mapM_append] at hids
    obtain ⟨ids', hfront, hrest⟩ := Option.bind_eq_some_iff.mp hids
    obtain ⟨tail, htail, hpure⟩ := Option.bind_eq_some_iff.mp hrest
    rw [List.mapM_cons] at htail
    obtain ⟨id, hid, hnil⟩ := Option.bind_eq_some_iff.mp htail
    cases hnil
    cases hpure
    exact ⟨ids', id, hfront, hid, rfl⟩
  obtain ⟨ids, id, hfront, hid, hssrcs⟩ := happend front last _ hids
  by_cases hc : c = space
  · -- an empty field is no number
    rw [if_pos hc] at hsplit'
    obtain ⟨rfl, rfl⟩ := List.cons.inj (show name :: (front ++ [last] ++ [[]]) = _ by
      rw [← hsplit']
      simp)
    obtain ⟨-, id', -, hempty, -⟩ := happend _ _ _ hids'
    cases hempty
  rw [if_neg hc] at hsplit'
  obtain ⟨rfl, rfl⟩ := List.cons.inj hsplit'
  obtain ⟨ids', id', hfront', hid', hssrcs'⟩ := happend _ _ _ hids'
  rw [hfront] at hfront'
  cases hfront'
  have hlast : (split space [] (x.drop 2)).getLastD [] = last := by
    rw [hsplit, ← List.cons_append, List.getLastD_concat]
  have hnumber := fromString_concat hid hid'
  rw [hlast, NumberKept, hid]
  simp only [Option.some.injEq]
  obtain ⟨semantics, ssrcs⟩ := g
  obtain ⟨semantics', ssrcs'⟩ := g'
  rw [← hnumber, SsrcGroup.mk.injEq]
  dsimp only at hsemantics hsemantics' hssrcs hssrcs'
  rw [hsemantics, hsemantics', hssrcs, hssrcs']
  simp

/-- The two lines add groups that show the same exactly under this condition. -/
theorem group_concat_iff {x : Bytes} {c : UInt8} {g g' : Option SsrcGroup}
    {r r' : Option (UInt32 × SsrcAttribute)} (hg : GroupReading x g)
    (hg' : GroupReading (x ++ [c]) g') (hr : SsrcReading x r) (hr' : SsrcReading (x ++ [c]) r')
    (infos : List SsrcInfo) :
    (g = g' ∨ (Unseen (createTrackFromSsrcInfo (withSsrc r infos)) g ∧
        Unseen (createTrackFromSsrcInfo (withSsrc r' infos)) g')) ↔ GroupKept infos x c := by
  unfold GroupKept
  rw [hg.unseen_iff hr, hg'.unseen_iff hr']
  cases hg with
  | nothing hkey =>
      simp only [hkey, false_and, false_or]
      cases hg' with
      | nothing hkey' =>
          exact iff_of_true (.inl rfl) ⟨fun h => absurd h hkey, fun h => absurd h hkey'⟩
      | group hkey' hparse' => simp
  | group hkey hparse =>
      have hlength : 2 ≤ x.length := by
        have hkeyLength : (ascii "a=ssrc-group:").length = 13 := by decide +kernel
        have hle := hkey.length_le
        omega
      cases hg' with
      | nothing hkey' => exact absurd (infix_concat_of_within hkey c) hkey'
      | group hkey' hparse' =>
          rw [Option.some.injEq, parseSsrcGroup_concat hlength hparse hparse']
          simp only [hkey, true_and]

end Xrtc.Proofs.Pc
