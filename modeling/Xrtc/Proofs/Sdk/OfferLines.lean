import Xrtc.Proofs.Sdk.CandidateLine

/-!
# `Xrtc.Proofs.Sdk.OfferLines`: the lines of an offer, one by one

`SetRemoteSDP` looks for four keys anywhere in a line, and at its first character for an
`m=` line. A line without any of these changes nothing (`OfferInert`,
`parseLines_offerInert`). The others are those of groups, of sections, of the credentials
and of the candidates of a section; a line in a section changes only what was read of that
section (`parseLines_inSection`).
-/

set_option autoImplicit false

namespace Xrtc.Proofs.Sdk

open Xrtc.Base
open Xrtc.Lib
open Xrtc.Ice (ascii colon)
open Xrtc.Pc (MediaType candidateLine getAttribute)
open Xrtc.Sdk
open Xrtc.Proofs.Base
open Xrtc.Proofs.Pc

variable {pton6 : Bytes → Option (Vector UInt8 16)}

/-! ### Inert lines -/

/-- What `SetRemoteSDP` looks for in a line. -/
def offerKeys : List Bytes :=
  [ascii "a=group:BUNDLE", ascii "a=candidate:", ascii "a=ice-ufrag", ascii "a=ice-pwd"]

/-- No key is in the line, and it does not begin as an `m=` line. -/
def OfferInert (line : Bytes) : Prop :=
  (∀ key ∈ offerKeys, ¬ key <:+: line) ∧ ∀ b ∈ line.head?, b ∉ ascii "m="

instance (line : Bytes) : Decidable (OfferInert line) := inferInstanceAs (Decidable (_ ∧ _))

/-- A line that neither names a bundle nor starts like a media line leaves the description alone.
-/
theorem parseMediaLine_of_inert {line : Bytes} (hgroup : ¬ ascii "a=group:BUNDLE" <:+: line)
    (hhead : ∀ b ∈ line.head?, b ∉ ascii "m=") (s : RemoteOffer) :
    s.parseMediaLine line = .ok s := by
  unfold RemoteOffer.parseMediaLine
  rw [if_neg (fun hc => hgroup (contains_iff.mp hc)), if_neg]
  rintro ⟨b, hb, hmem⟩
  exact hhead b hb hmem

/-- A line with none of the keys leaves the section alone. -/
theorem parseLine_of_inert {line : Bytes} (h : ∀ key ∈ offerKeys, ¬ key <:+: line)
    (sec : OfferSection) : sec.parseLine pton6 line = (sec, true) := by
  have hkey : ∀ key ∈ offerKeys, ¬ contains key line = true :=
    fun key hkey hc => h key hkey (contains_iff.mp hc)
  have hcandidates : parseCandidates pton6 line = some [] :=
    if_neg (hkey _ (by simp [offerKeys]))
  have htransport : parseTransportInfo sec.td line = some sec.td := by
    unfold parseTransportInfo
    rw [if_neg (hkey _ (by simp [offerKeys])), if_neg (hkey _ (by simp [offerKeys]))]
  unfold OfferSection.parseLine
  rw [hcandidates]
  dsimp only
  rw [htransport, List.append_nil]

/-- So it does with the current section, whichever that is. -/
theorem parseSectionLine_of_inert {line : Bytes} (h : ∀ key ∈ offerKeys, ¬ key <:+: line)
    (s : RemoteOffer) : s.parseSectionLine pton6 line = (s, true) := by
  unfold RemoteOffer.parseSectionLine
  rw [parseLine_of_inert h, parseLine_of_inert h]
  split_ifs <;> rfl

/-- Inert lines may as well be left out, by induction on them. -/
theorem parseLines_offerInert {block : List Bytes} (h : ∀ line ∈ block, OfferInert line)
    (rest : List Bytes) (s : RemoteOffer) :
    s.parseLines pton6 (block ++ rest) = s.parseLines pton6 rest := by
  -- on the lines
  induction block with
  | nil => rfl
  | cons line block ih =>
      obtain ⟨⟨hkeys, hhead⟩, hblock⟩ := List.forall_mem_cons.mp h
      have hmedia := parseMediaLine_of_inert (hkeys _ (by simp [offerKeys])) hhead s
      rw [List.cons_append, RemoteOffer.parseLines, hmedia]
      dsimp only
      rw [parseSectionLine_of_inert hkeys s]
      exact ih hblock

/-- An attribute with no second equals sign has a key at its beginning only. -/
theorem offerInert_attribute {value : Bytes} (h : equals ∉ value)
    (hgroup : ¬ ascii "group:BUNDLE" <+: value) (hcandidate : ¬ ascii "candidate:" <+: value)
    (hufrag : ¬ ascii "ice-ufrag" <+: value) (hpwd : ¬ ascii "ice-pwd" <+: value) :
    OfferInert (ascii "a=" ++ value) := by
  have hkeys : offerKeys = [ascii "a=" ++ ascii "group:BUNDLE", ascii "a=" ++ ascii "candidate:",
      ascii "a=" ++ ascii "ice-ufrag", ascii "a=" ++ ascii "ice-pwd"] := by
    simp [offerKeys, ascii]
  constructor
  · rw [hkeys]
    simp only [List.forall_mem_cons, infix_attribute h]
    exact ⟨hgroup, hcandidate, hufrag, hpwd, fun key hkey => absurd hkey List.not_mem_nil⟩
  · intro b hb
    have hhead : (ascii "a=" ++ value).head? = some 0x61 := by simp [ascii]
    rw [hhead] at hb
    cases hb
    simp [ascii]

/-! ### Sections -/

/-- The local objects of a section. -/
def offerSection (s : RemoteOffer) : MediaType → OfferSection
  | .audio => s.audio
  | .video => s.video

/-- They are replaced. -/
def setOfferSection (s : RemoteOffer) (type : MediaType) (sec : OfferSection) : RemoteOffer :=
  match type with
  | .audio => { s with audio := sec }
  | .video => { s with video := sec }

/-- A section that was set is read back, the other one is untouched. -/
theorem offerSection_set (s : RemoteOffer) (type type' : MediaType) (sec : OfferSection) :
    offerSection (setOfferSection s type sec) type' =
      if type' = type then sec else offerSection s type' := by
  cases type <;> cases type' <;> rfl

/-- Of two settings the second one counts. -/
@[simp] theorem setOfferSection_set (s : RemoteOffer) (type : MediaType) (sec sec' : OfferSection) :
    setOfferSection (setOfferSection s type sec) type sec' = setOfferSection s type sec' := by
  cases type <;> rfl

/-- Setting a section to what it is changes nothing. -/
@[simp] theorem setOfferSection_self (s : RemoteOffer) (type : MediaType) :
    setOfferSection s type (offerSection s type) = s := by
  cases type <;> rfl

/-- The current section stays the current one. -/
@[simp] theorem setOfferSection_mid (s : RemoteOffer) (type : MediaType) (sec : OfferSection) :
    (setOfferSection s type sec).mid = s.mid := by
  cases type <;> rfl

/-- The list of contents is no part of a section. -/
@[simp] theorem setOfferSection_contents (s : RemoteOffer) (type : MediaType) (sec : OfferSection) :
    (setOfferSection s type sec).contents = s.contents := by
  cases type <;> rfl

/-- Neither are the groups. -/
@[simp] theorem setOfferSection_contentGroups (s : RemoteOffer) (type : MediaType)
    (sec : OfferSection) : (setOfferSection s type sec).contentGroups = s.contentGroups := by
  cases type <;> rfl

/-- The two sections have different names. -/
theorem mid_ne : ascii "audio" ≠ ascii "video" := by simp [ascii]

/-- A line of the current section, by what it does to that section alone. -/
theorem parseSectionLine_eq {s : RemoteOffer} {type : MediaType} (hs : s.mid = type.mid)
    {line : Bytes} {sec : OfferSection}
    (h : (offerSection s type).parseLine pton6 line = (sec, true)) :
    s.parseSectionLine pton6 line = (setOfferSection s type sec, true) := by
  unfold RemoteOffer.parseSectionLine
  cases type with
  | audio =>
      have hline : s.audio.parseLine pton6 line = (sec, true) := h
      have haudio : ascii "audio" = s.mid := hs.symm
      rw [if_pos haudio, hline]
      rfl
  | video =>
      have hline : s.video.parseLine pton6 line = (sec, true) := h
      have hvideo : ascii "video" = s.mid := hs.symm
      rw [if_neg (fun heq => mid_ne (heq.trans hs)), if_pos hvideo, hline]
      rfl

/-- A line that is no group and no section, in a section. -/
theorem parseLines_inSection {s : RemoteOffer} {type : MediaType} (hs : s.mid = type.mid)
    {line : Bytes} (hmedia : s.parseMediaLine line = .ok s) {sec : OfferSection}
    (h : (offerSection s type).parseLine pton6 line = (sec, true)) (rest : List Bytes) :
    s.parseLines pton6 (line :: rest) = (setOfferSection s type sec).parseLines pton6 rest := by
  rw [RemoteOffer.parseLines, hmedia]
  dsimp only
  rw [parseSectionLine_eq hs h]

/-! ### Candidates and credentials -/

/-- An attribute line without a second `=` is no media line. -/
theorem parseMediaLine_attribute {value : Bytes} (h : equals ∉ value)
    (hgroup : ¬ ascii "group:BUNDLE" <+: value) (s : RemoteOffer) :
    s.parseMediaLine (ascii "a=" ++ value) = .ok s := by
  have hkey : ascii "a=group:BUNDLE" = ascii "a=" ++ ascii "group:BUNDLE" := by simp [ascii]
  refine parseMediaLine_of_inert ?_ ?_ s
  · rwa [hkey, infix_attribute h]
  · intro b hb
    have hhead : (ascii "a=" ++ value).head? = some 0x61 := by simp [ascii]
    rw [hhead] at hb
    cases hb
    simp [ascii]

/-- Neither is it the line of a candidate. -/
theorem parseCandidates_attribute {value : Bytes} (h : equals ∉ value)
    (hcandidate : ¬ ascii "candidate:" <+: value) :
    parseCandidates pton6 (ascii "a=" ++ value) = some [] := by
  have hkey : ascii "a=candidate:" = ascii "a=" ++ ascii "candidate:" := by simp [ascii]
  refine if_neg ?_
  rwa [contains_attribute hkey h]

/-- The username fragment. -/
theorem parseLine_iceUfrag {value : Bytes} (hne : value ≠ []) (hequals : equals ∉ value)
    (hcolon : colon ∉ value) (sec : OfferSection) :
    sec.parseLine pton6 (ascii "a=" ++ (ascii "ice-ufrag:" ++ value)) =
      ({ sec with td := { sec.td with iceUfrag := value } }, true) := by
  have hvalue : equals ∉ ascii "ice-ufrag:" ++ value := by
    rw [List.mem_append, not_or]
    exact ⟨by simp [ascii, equals], hequals⟩
  have hname : ascii "a=" ++ (ascii "ice-ufrag:" ++ value) = ascii "a=ice-ufrag" ++ colon :: value := by
    simp [ascii, colon]
  have hattr : getAttribute (ascii "a=" ++ (ascii "ice-ufrag:" ++ value)) = value := by
    rw [hname]
    exact getAttribute_append (by simp [ascii, colon]) (by simp [ascii]) hcolon hne
  have hufrag : contains (ascii "a=ice-ufrag") (ascii "a=" ++ (ascii "ice-ufrag:" ++ value)) = true :=
    (contains_attribute iceUfragKey hvalue).mpr
      ((show ascii "ice-ufrag" <+: ascii "ice-ufrag:" by simp [ascii]).trans (List.prefix_append _ _))
  have htransport : parseTransportInfo sec.td (ascii "a=" ++ (ascii "ice-ufrag:" ++ value)) =
      some { sec.td with iceUfrag := value } := by
    unfold parseTransportInfo
    rw [if_pos hufrag, hattr]
    exact if_neg hne
  unfold OfferSection.parseLine
  rw [parseCandidates_attribute hvalue (not_prefix_append (by simp [ascii]) (by simp [ascii]))]
  dsimp only
  rw [htransport, List.append_nil]

/-- The password is set in the transport of the section. The line has none of the keys that are
looked for before and behind it. -/
theorem parseLine_icePwd {value : Bytes} (hne : value ≠ []) (hequals : equals ∉ value)
    (hcolon : colon ∉ value) (sec : OfferSection) :
    sec.parseLine pton6 (ascii "a=" ++ (ascii "ice-pwd:" ++ value)) =
      ({ sec with td := { sec.td with icePwd := value } }, true) := by
  have hvalue : equals ∉ ascii "ice-pwd:" ++ value := by
    rw [List.mem_append, not_or]
    exact ⟨by simp [ascii, equals], hequals⟩
  have hname : ascii "a=" ++ (ascii "ice-pwd:" ++ value) = ascii "a=ice-pwd" ++ colon :: value := by
    simp [ascii, colon]
  have hattr : getAttribute (ascii "a=" ++ (ascii "ice-pwd:" ++ value)) = value := by
    rw [hname]
    exact getAttribute_append (by simp [ascii, colon]) (by simp [ascii]) hcolon hne
  have hufrag : ¬ contains (ascii "a=ice-ufrag") (ascii "a=" ++ (ascii "ice-pwd:" ++ value)) = true :=
    (contains_attribute iceUfragKey hvalue).not.mpr
      (not_prefix_append (by simp [ascii]) (by simp [ascii]))
  have hpwd : contains (ascii "a=ice-pwd") (ascii "a=" ++ (ascii "ice-pwd:" ++ value)) = true :=
    (contains_attribute icePwdKey hvalue).mpr
      ((show ascii "ice-pwd" <+: ascii "ice-pwd:" by simp [ascii]).trans (List.prefix_append _ _))
  have htransport : parseTransportInfo sec.td (ascii "a=" ++ (ascii "ice-pwd:" ++ value)) =
      some { sec.td with icePwd := value } := by
    unfold parseTransportInfo
    rw [if_neg hufrag, if_pos hpwd, hattr]
    exact if_neg hne
  unfold OfferSection.parseLine
  rw [parseCandidates_attribute hvalue (not_prefix_append (by simp [ascii]) (by simp [ascii]))]
  dsimp only
  rw [htransport, List.append_nil]

/-- What is behind the attribute in the line of a candidate has no equals sign. -/
theorem candidateLine_attribute {ntop6 : Vector UInt8 16 → Bytes} {c : Pc.Candidate}
    (h : IsHostCandidate ntop6 c) :
    ∃ value, candidateLine ntop6 c = ascii "a=" ++ (ascii "candidate:" ++ value) ∧
      equals ∉ ascii "candidate:" ++ value ∧ lf ∉ value := by
  obtain ⟨ip, -, hip, -⟩ := hostCandidate_fields h
  refine ⟨candidateValue c ip, ?_, ?_, ?_⟩
  · have hkey : ascii "a=candidate:" = ascii "a=" ++ ascii "candidate:" := by simp [ascii]
    rw [candidateLine_eq ntop6 hip, hkey, List.append_assoc]
    rfl
  · rw [List.mem_append, not_or]
    exact ⟨by simp [ascii, equals],
      not_mem_candidateValue (by decide) (by simp [ascii, equals]) (by decide) h ip⟩
  · exact not_mem_candidateValue (by decide) (by simp [ascii, lf]) (by decide) h ip

/-- A candidate is added to what was read of the section. -/
theorem parseLine_candidate {ntop6 : Vector UInt8 16 → Bytes} {c : Pc.Candidate}
    (h : IsHostCandidate ntop6 c) :
    ∃ c', SameCandidate c c' ∧ ∀ sec : OfferSection, sec.parseLine pton6 (candidateLine ntop6 c) =
      ({ sec with candidates := sec.candidates ++ [c'] }, true) := by
  obtain ⟨c', hparse, hsame⟩ := parseCandidates_candidateLine ntop6 pton6 h
  obtain ⟨value, hline, hequals, -⟩ := candidateLine_attribute h
  refine ⟨c', hsame, ?_⟩
  intro sec
  have htransport : parseTransportInfo sec.td (candidateLine ntop6 c) = some sec.td := by
    unfold parseTransportInfo
    rw [hline, if_neg ((contains_attribute iceUfragKey hequals).not.mpr
        (not_prefix_append (by simp [ascii]) (by simp [ascii]))),
      if_neg ((contains_attribute icePwdKey hequals).not.mpr
        (not_prefix_append (by simp [ascii]) (by simp [ascii])))]
  unfold OfferSection.parseLine
  rw [hparse]
  dsimp only
  rw [htransport]

/-- The candidates of a section are read in order, by induction on them. Each line adds one
candidate behind those that are there. -/
theorem parseLines_candidates {ntop6 : Vector UInt8 16 → Bytes} {type : MediaType}
    {candidates : List Pc.Candidate} (h : ∀ c ∈ candidates, IsHostCandidate ntop6 c)
    (rest : List Bytes) : ∀ {s : RemoteOffer}, s.mid = type.mid →
    ∃ candidates', List.Forall₂ SameCandidate candidates candidates' ∧
      s.parseLines pton6 (candidates.map (candidateLine ntop6) ++ rest) =
        (setOfferSection s type { offerSection s type with
          candidates := (offerSection s type).candidates ++ candidates' }).parseLines pton6 rest := by
  -- on the candidates, from any local objects in this section
  induction candidates with
  | nil =>
      intro s hs
      refine ⟨[], .nil, ?_⟩
      rw [List.append_nil, setOfferSection_self]
      rfl
  | cons c candidates ih =>
      intro s hs
      obtain ⟨hc, hcandidates⟩ := List.forall_mem_cons.mp h
      obtain ⟨c', hsame, hparse⟩ := @parseLine_candidate pton6 _ _ hc
      obtain ⟨value, hline, hequals, -⟩ := candidateLine_attribute hc
      have hmedia : s.parseMediaLine (candidateLine ntop6 c) = .ok s := by
        rw [hline]
        exact parseMediaLine_attribute hequals
          (not_prefix_append (by simp [ascii]) (by simp [ascii])) s
      have hmid := (setOfferSection_mid s type { offerSection s type with
        candidates := (offerSection s type).candidates ++ [c'] }).trans hs
      obtain ⟨candidates', hall, hrest⟩ := ih hcandidates hmid
      refine ⟨c' :: candidates', .cons hsame hall, ?_⟩
      rw [List.map_cons, List.cons_append, parseLines_inSection hs hmedia (hparse _), hrest,
        setOfferSection_set, offerSection_set, if_pos rfl]
      simp

end Xrtc.Proofs.Sdk
