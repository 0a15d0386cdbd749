import Xrtc.Proofs.Base.StringEncode
import Xrtc.Proofs.Pc.RemoteSdp

/-!
# `Xrtc.Proofs.Pc.AttributeLines`: lines as they are printed

The parser gets back the lines that were printed (`sdpFields_printLines`), and looks for its
keys anywhere in them. An attribute with no second equals sign can have a key at its
beginning only (`infix_attribute`), so for such lines it is enough to compare the name of
the attribute with the keys.
-/

set_option autoImplicit false

namespace Xrtc.Proofs.Pc

open Xrtc.Base
open Xrtc.Lib
open Xrtc.Ice (ascii colon split)
open Xrtc.Pc
open Xrtc.Proofs.Base

/-! ### Lines of a text -/

/-- A printed text splits into its lines again, each with the carriage return at its end. -/
theorem tokenize_printed (lines : List Bytes) (h : ∀ line ∈ lines, lf ∉ line) :
    tokenize lf [] (printLines lines) = lines.map fun line => line ++ [cr] := by
  induction lines with
  | nil => rfl
  | cons line lines ih =>
      obtain ⟨hline, hlines⟩ := List.forall_mem_cons.mp h
      have hfield : lf ∉ line ++ [cr] := by
        rw [List.mem_append, not_or]
        exact ⟨hline, by decide⟩
      have htext : printLines (line :: lines) = (line ++ [cr]) ++ lf :: printLines lines := by
        show (line ++ [cr, lf]) ++ printLines lines = _
        simp
      rw [htext, tokenize_append hfield (by simp), ih hlines, List.map_cons]

/-- A printed text has a CRLF in it, if it has a line at all. -/
theorem crlf_infix_printed {lines : List Bytes} (h : lines ≠ []) :
    [cr, lf] <:+: printLines lines := by
  obtain ⟨line, lines, rfl⟩ := List.exists_cons_of_ne_nil h
  exact ⟨line, printLines lines, by show _ = (line ++ [cr, lf]) ++ _; rfl⟩

/-- The lines that were printed are found again. -/
theorem sdpFields_printLines {lines : List Bytes} (h : ∀ line ∈ lines, lf ∉ line) :
    sdpFields (printLines lines) = lines := by
  unfold sdpFields
  dsimp only
  rw [tokenize_printed lines h]
  by_cases hne : lines = []
  · subst hne
    split <;> rfl
  · rw [if_pos (contains_iff.mpr (crlf_infix_printed hne)), List.map_map]
    have hdrop : (List.dropLast ∘ fun line : Bytes => line ++ [cr]) = id := by
      funext line
      exact List.dropLast_concat
    rw [hdrop, List.map_id]

/-! ### Attributes -/

/-- The equals sign. -/
def equals : UInt8 := 0x3d

/-- A key of an attribute is at the beginning. -/
theorem infix_attribute {key value : Bytes} (h : equals ∉ value) :
    ascii "a=" ++ key <:+: ascii "a=" ++ value ↔ key <+: value := by
  have hname : ascii "a=" = [0x61] ++ [equals] := by simp [ascii, equals]
  rw [hname, List.append_assoc, List.append_assoc]
  exact (infix_iff_of_unique (by decide) h).trans (and_iff_right (List.suffix_refl _))

/-- A key of a section is not there. -/
theorem not_infix_attribute {key value : Bytes} (h : equals ∉ value) :
    ¬ ascii "m=" ++ key <:+: ascii "a=" ++ value := by
  have hname : ascii "a=" = [0x61] ++ [equals] := by simp [ascii, equals]
  have hmedia : ascii "m=" = [0x6d] ++ [equals] := by simp [ascii, equals]
  rw [hname, hmedia, List.append_assoc, List.append_assoc]
  exact fun hinfix => absurd ((infix_iff_of_unique (by decide) h).mp hinfix).1 (by decide)

/-- Two texts that differ before either of them ends. -/
theorem not_prefix_append {α : Type} {key name value : List α} (h : ¬ key <+: name)
    (h' : ¬ name <+: key) : ¬ key <+: name ++ value :=
  fun hkey => (List.prefix_or_prefix_of_prefix hkey (List.prefix_append _ _)).elim h h'

/-- An attribute without an equals sign behind its `a=` is neither an `m=` line nor a group. -/
theorem mediaEffect_attribute {value : Bytes} (h : equals ∉ value) :
    mediaEffect (ascii "a=" ++ value) = .ok .nothing := by
  have hgroup : ascii "m=group:BUNDLE" = ascii "m=" ++ ascii "group:BUNDLE" := by simp [ascii]
  have hempty : ascii "m=" = ascii "m=" ++ [] := (List.append_nil _).symm
  unfold mediaEffect
  rw [if_neg, if_neg]
  · rw [contains_iff, hempty]
    exact not_infix_attribute h
  · rw [contains_iff, hgroup]
    exact not_infix_attribute h

/-- A test for a key of an attribute. -/
theorem contains_attribute {pattern key value : Bytes} (hpattern : pattern = ascii "a=" ++ key)
    (h : equals ∉ value) : contains pattern (ascii "a=" ++ value) = true ↔ key <+: value := by
  rw [contains_iff, hpattern, infix_attribute h]

/-- The key of the user name in its two parts. -/
theorem iceUfragKey : ascii "a=ice-ufrag" = ascii "a=" ++ ascii "ice-ufrag" := by simp [ascii]

/-- The key of the password in its two parts. -/
theorem icePwdKey : ascii "a=ice-pwd" = ascii "a=" ++ ascii "ice-pwd" := by simp [ascii]

/-- The key of the fingerprint in its two parts. -/
theorem fingerprintKey : ascii "a=fingerprint" = ascii "a=" ++ ascii "fingerprint" := by
  simp [ascii]

/-- The key of an ssrc group in its two parts. -/
theorem ssrcGroupKey : ascii "a=ssrc-group:" = ascii "a=" ++ ascii "ssrc-group:" := by
  simp [ascii]

/-- The key of an ssrc in its two parts. -/
theorem ssrcKey : ascii "a=ssrc:" = ascii "a=" ++ ascii "ssrc:" := by simp [ascii]

/-! ### Attributes without an effect -/

/-- An attribute that does not start like one of the three keys says nothing about the transport.
A key can only be at the start, since it has an equals sign in it. -/
theorem transportEffect_attribute {value : Bytes} (h : equals ∉ value)
    (hufrag : ¬ ascii "ice-ufrag" <+: value) (hpwd : ¬ ascii "ice-pwd" <+: value)
    (hfingerprint : ¬ ascii "fingerprint" <+: value) :
    transportEffect (ascii "a=" ++ value) = .ok .nothing := by
  unfold transportEffect
  rw [if_neg, if_neg, if_neg]
  · rwa [contains_attribute fingerprintKey h]
  · rwa [contains_attribute icePwdKey h]
  · rwa [contains_attribute iceUfragKey h]

/-- In the same way: it names no group. -/
theorem ssrcGroupEffect_attribute {value : Bytes} (h : equals ∉ value)
    (hkey : ¬ ascii "ssrc-group:" <+: value) :
    ssrcGroupEffect (ascii "a=" ++ value) = .ok none := by
  unfold ssrcGroupEffect
  rw [if_neg]
  rwa [contains_attribute ssrcGroupKey h]

/-- In the same way: it says nothing about an ssrc. -/
theorem ssrcEffect_attribute {value : Bytes} (h : equals ∉ value)
    (hkey : ¬ ascii "ssrc:" <+: value) : ssrcEffect (ascii "a=" ++ value) = .ok none := by
  unfold ssrcEffect
  rw [if_neg]
  rwa [contains_attribute ssrcKey h]

/-- A line that names no group names none in either section. -/
theorem videoGroupEffect_of_none {type : MediaType} {line : Bytes}
    (h : ssrcGroupEffect line = .ok none) : videoGroupEffect type line = .ok none := by
  unfold videoGroupEffect
  rw [h, ite_self]

/-- The effect of an attribute in a section. -/
theorem lineEffect_attribute (type : MediaType) {value : Bytes} {t : TransportEffect}
    {g : Option SsrcGroup} {r : Option (UInt32 × SsrcAttribute)} (h : equals ∉ value)
    (ht : transportEffect (ascii "a=" ++ value) = .ok t)
    (hg : videoGroupEffect type (ascii "a=" ++ value) = .ok g)
    (hr : ssrcEffect (ascii "a=" ++ value) = .ok r) :
    lineEffect type.mid (ascii "a=" ++ value)
      = .ok { current := some (type, { transport := t, group := g, ssrc := r }) } := by
  rw [lineEffect, mediaEffect_attribute h]
  dsimp only [bind, Except.bind, afterMedia]
  rw [sectionType_mid]
  dsimp only
  rw [sectionEffect, ht, hg, hr]
  rfl

/-- The value behind a name. -/
theorem getAttribute_append {name value : Bytes} (hname : colon ∉ name) (hne : name ≠ [])
    (hcolon : colon ∉ value) (hvalue : value ≠ []) :
    getAttribute (name ++ colon :: value) = value := by
  unfold getAttribute
  rw [tokenize_append hname hne, tokenize_of_not_mem hcolon hvalue]

/-! ### Lines of an ssrc -/

/-- What is said about an ssrc in a printed line. -/
def ssrcValue (ssrc : UInt32) (attr value : Bytes) : Bytes :=
  ascii "ssrc:" ++ decimal ssrc.toNat ++ space :: (attr ++ colon :: value)

/-- The line of an ssrc in its two parts. -/
theorem ssrcLine_eq (ssrc : UInt32) (attr value : Bytes) :
    ssrcLine ssrc attr value = ascii "a=" ++ ssrcValue ssrc attr value := by
  have hblank : ascii " " = [space] := by simp [ascii, space]
  have hcolon : ascii ":" = [colon] := by simp [ascii, colon]
  unfold ssrcLine ssrcValue
  rw [ssrcKey, hblank, hcolon]
  simp only [List.append_assoc, List.cons_append, List.nil_append]

/-- A character that is in none of its parts is not in the line. -/
theorem not_mem_ssrcValue {b : UInt8} (hb : b ∉ ascii "ssrc: ") (hdigit : isDigit b = false)
    (ssrc : UInt32) {attr value : Bytes} (hattr : b ∉ attr) (hvalue : b ∉ value) :
    b ∉ ssrcValue ssrc attr value := by
  have hname : ascii "ssrc: " = ascii "ssrc:" ++ [space] := by simp [ascii, space]
  have hcolon : colon ∈ ascii "ssrc:" := by simp [ascii, colon]
  rw [hname, List.mem_append, not_or] at hb
  have hne : b ≠ colon := fun h => hb.1 (h ▸ hcolon)
  unfold ssrcValue
  simp only [List.mem_append, List.mem_cons, not_or]
  exact ⟨⟨hb.1, not_mem_decimal hdigit _⟩, fun h => hb.2 (List.mem_singleton.mpr h), hattr, hne,
    hvalue⟩

/-- The number of the ssrc is read back from the line, and what is left is its attribute. -/
theorem parseSsrcId_ssrcLine (ssrc : UInt32) {attr : Bytes} (value : Bytes)
    (hhead : (attr ++ colon :: value).head? ≠ some space) :
    parseSsrcId (ascii "a=" ++ ssrcValue ssrc attr value) = .ok (ssrc, attr ++ colon :: value) := by
  have hlen : (ascii "a=").length = 2 := by simp [ascii]
  have hname : (ascii "ssrc:").length = 5 := by simp [ascii]
  have hdrop : (ascii "a=" ++ ssrcValue ssrc attr value).drop 2 = ssrcValue ssrc attr value := by
    rw [← hlen, List.drop_left]
  have hfirst : space ∉ ascii "ssrc:" ++ decimal ssrc.toNat := by
    rw [List.mem_append, not_or]
    exact ⟨by simp [ascii, space], not_mem_decimal (by decide) _⟩
  have hid : substr (ascii "ssrc:" ++ decimal ssrc.toNat) 5 = some (decimal ssrc.toNat) := by
    unfold substr
    rw [if_neg (by rw [List.length_append, hname]; omega), ← hname, List.drop_left]
  unfold parseSsrcId
  rw [hdrop, ssrcValue, tokenizeFirst_append hfirst hhead]
  dsimp only [orElse, bind, Except.bind]
  rw [hid]
  dsimp only
  rw [fromString_decimal]
  rfl

/-- A printed line of an ssrc says what is in its attribute. -/
theorem ssrcEffect_ssrcLine (ssrc : UInt32) {attr value : Bytes} (hcolon : colon ∉ attr)
    (hhead : (attr ++ colon :: value).head? ≠ some space) (hvalue : value.head? ≠ some colon) :
    ssrcEffect (ssrcLine ssrc attr value)
      = (parseSsrcAttribute attr value).map fun a => some (ssrc, a) := by
  have hkey : contains (ascii "a=ssrc:") (ascii "a=" ++ ssrcValue ssrc attr value) = true := by
    rw [contains_iff, ssrcKey, ssrcValue, List.append_assoc, ← List.append_assoc]
    exact (List.prefix_append _ _).isInfix
  rw [ssrcLine_eq, ssrcEffect, if_pos hkey, parseSsrcId_ssrcLine ssrc value hhead]
  show (orElse .rejected (tokenizeFirst colon (attr ++ colon :: value)) >>= _) = _
  rw [tokenizeFirst_append hcolon hvalue]
  show (parseSsrcAttribute attr value >>= _) = _
  cases parseSsrcAttribute attr value <;> rfl

/-- It says nothing else. -/
theorem lineEffect_ssrcLine (type : MediaType) (ssrc : UInt32) {attr value : Bytes}
    {a : SsrcAttribute} (hattr : parseSsrcAttribute attr value = .ok a)
    (hequals : equals ∉ attr ++ value) (hcolon : colon ∉ attr)
    (hhead : (attr ++ colon :: value).head? ≠ some space) (hvalue : value.head? ≠ some colon) :
    lineEffect type.mid (ssrcLine ssrc attr value)
      = .ok { current := some (type, { ssrc := some (ssrc, a) }) } := by
  rw [List.mem_append, not_or] at hequals
  have hne : equals ∉ ssrcValue ssrc attr value :=
    not_mem_ssrcValue (by simp [ascii, equals]) (by decide) ssrc hequals.1 hequals.2
  have hstart : ∀ {key : Bytes}, ¬ key <+: ascii "ssrc:" → ¬ ascii "ssrc:" <+: key →
      ¬ key <+: ssrcValue ssrc attr value := by
    intro key h h'
    rw [ssrcValue, List.append_assoc]
    exact not_prefix_append h h'
  have hssrc := ssrcEffect_ssrcLine ssrc hcolon hhead hvalue
  rw [hattr, ssrcLine_eq] at hssrc
  rw [ssrcLine_eq]
  exact lineEffect_attribute type hne
    (transportEffect_attribute hne (hstart (by simp [ascii]) (by simp [ascii]))
      (hstart (by simp [ascii]) (by simp [ascii]))
      (hstart (by simp [ascii]) (by simp [ascii])))
    (videoGroupEffect_of_none
      (ssrcGroupEffect_attribute hne (hstart (by simp [ascii]) (by simp [ascii]))))
    hssrc

/-- What is said about a group in a printed line. -/
def ssrcGroupValue (semantics : Bytes) (ssrcs : List UInt32) : Bytes :=
  ascii "ssrc-group:" ++ semantics ++
    (ssrcs.map fun ssrc => decimal ssrc.toNat).flatMap fun f => space :: f

/-- The line of a group in its two parts. -/
theorem ssrcGroupLine_eq (semantics : Bytes) (ssrcs : List UInt32) :
    ssrcGroupLine semantics ssrcs = ascii "a=" ++ ssrcGroupValue semantics ssrcs := by
  have hblank : ascii " " = [space] := by simp [ascii, space]
  unfold ssrcGroupLine ssrcGroupValue
  rw [ssrcGroupKey, hblank, List.flatMap_map]
  simp only [List.append_assoc, List.singleton_append]

/-- Numbers are printed in digits. -/
theorem not_mem_decimals {b : UInt8} (hb : isDigit b = false) (ssrcs : List UInt32) :
    ∀ f ∈ ssrcs.map fun ssrc => decimal ssrc.toNat, b ∉ f := by
  intro f hf
  obtain ⟨ssrc, -, rfl⟩ := List.mem_map.mp hf
  exact not_mem_decimal hb _

/-- A character that is in none of its parts is not in the line of a group. -/
theorem not_mem_ssrcGroupValue {b : UInt8} (hb : b ∉ ascii "ssrc-group:") (hspace : b ≠ space)
    (hdigit : isDigit b = false) {semantics : Bytes} (hsemantics : b ∉ semantics)
    (ssrcs : List UInt32) : b ∉ ssrcGroupValue semantics ssrcs := by
  unfold ssrcGroupValue
  simp only [List.mem_append, List.mem_flatMap, List.mem_cons, not_or, not_exists, not_and]
  exact ⟨⟨hb, hsemantics⟩, fun f hf => ⟨hspace, not_mem_decimals hdigit ssrcs f hf⟩⟩

/-- Printed numbers are read back. -/
theorem mapM_fromString_decimal (ssrcs : List UInt32) :
    (ssrcs.map fun ssrc => decimal ssrc.toNat).mapM fromString = some ssrcs := by
  induction ssrcs with
  | nil => rfl
  | cons ssrc ssrcs ih => simp [fromString_decimal, ih]

/-- A group of streams is read back from its line. The semantics ends at the first blank, and each
number behind it is printed in decimal. -/
theorem parseSsrcGroup_ssrcGroupLine {semantics : Bytes} {ssrcs : List UInt32}
    (hsemantics : semantics ≠ []) (hcolon : colon ∉ semantics) (hspace : space ∉ semantics)
    (hssrcs : ssrcs ≠ []) :
    parseSsrcGroup (ascii "a=" ++ ssrcGroupValue semantics ssrcs) = some ⟨semantics, ssrcs⟩ := by
  have hlen : (ascii "a=").length = 2 := by simp [ascii]
  have hkey : ascii "ssrc-group:" = ascii "ssrc-group" ++ [colon] := by simp [ascii, colon]
  have hsplit : split space [] ((ascii "a=" ++ ssrcGroupValue semantics ssrcs).drop 2)
      = (ascii "ssrc-group:" ++ semantics) :: ssrcs.map fun ssrc => decimal ssrc.toNat := by
    rw [← hlen, List.drop_left]
    refine split_fields _ (not_mem_decimals (by decide) ssrcs) _ ?_
    rw [List.mem_append, not_or]
    exact ⟨by simp [ascii, space], hspace⟩
  have hattr : getAttribute (ascii "ssrc-group:" ++ semantics) = semantics := by
    rw [hkey, List.append_assoc]
    exact getAttribute_append (by simp [ascii, colon]) (by simp [ascii]) hcolon hsemantics
  have hids := mapM_fromString_decimal ssrcs
  obtain ⟨ssrc, rest, rfl⟩ := List.exists_cons_of_ne_nil hssrcs
  unfold parseSsrcGroup
  rw [hsplit]
  rw [List.map_cons] at hids ⊢
  dsimp only
  rw [hids, hattr]
  dsimp only [bind, Option.bind]
  rw [if_neg hsemantics]
  rfl

/-- The line of a group of ssrcs adds that group to the video section, and says nothing else: none
of the other keys is in it. -/
theorem lineEffect_ssrcGroupLine {semantics : Bytes} {ssrcs : List UInt32}
    (hsemantics : semantics ≠ []) (hequals : equals ∉ semantics) (hcolon : colon ∉ semantics)
    (hspace : space ∉ semantics) (hssrcs : ssrcs ≠ []) :
    lineEffect MediaType.video.mid (ssrcGroupLine semantics ssrcs)
      = .ok { current := some (.video, { group := some ⟨semantics, ssrcs⟩ }) } := by
  have hne : equals ∉ ssrcGroupValue semantics ssrcs :=
    not_mem_ssrcGroupValue (by simp [ascii, equals]) (by decide) (by decide) hequals ssrcs
  have hstart : ∀ {key : Bytes}, ¬ key <+: ascii "ssrc-group:" → ¬ ascii "ssrc-group:" <+: key →
      ¬ key <+: ssrcGroupValue semantics ssrcs := by
    intro key h h'
    rw [ssrcGroupValue, List.append_assoc]
    exact not_prefix_append h h'
  have hkey : ascii "ssrc-group:" <+: ssrcGroupValue semantics ssrcs := by
    rw [ssrcGroupValue, List.append_assoc]
    exact List.prefix_append _ _
  have hgroup : videoGroupEffect .video (ascii "a=" ++ ssrcGroupValue semantics ssrcs)
      = .ok (some ⟨semantics, ssrcs⟩) := by
    rw [videoGroupEffect, if_pos rfl, ssrcGroupEffect,
      if_pos ((contains_attribute ssrcGroupKey hne).mpr hkey),
      parseSsrcGroup_ssrcGroupLine hsemantics hcolon hspace hssrcs]
    rfl
  rw [ssrcGroupLine_eq]
  exact lineEffect_attribute .video hne
    (transportEffect_attribute hne (hstart (by simp [ascii]) (by simp [ascii]))
      (hstart (by simp [ascii]) (by simp [ascii]))
      (hstart (by simp [ascii]) (by simp [ascii])))
    hgroup (ssrcEffect_attribute hne (hstart (by simp [ascii]) (by simp [ascii])))

/-! ### Lines of a transport -/

/-- The username fragment. -/
theorem lineEffect_iceUfrag (type : MediaType) {value : Bytes} (hne : value ≠ [])
    (hequals : equals ∉ value) (hcolon : colon ∉ value) :
    lineEffect type.mid (ascii "a=ice-ufrag:" ++ value)
      = .ok { current := some (type, { transport := .iceUfrag value }) } := by
  have hkey : ascii "a=ice-ufrag:" = ascii "a=" ++ ascii "ice-ufrag:" := by simp [ascii]
  have hname : ascii "a=" ++ ascii "ice-ufrag:" = ascii "a=ice-ufrag" ++ [colon] := by
    simp [ascii, colon]
  have hvalue : equals ∉ ascii "ice-ufrag:" ++ value := by
    rw [List.mem_append, not_or]
    exact ⟨by simp [ascii, equals], hequals⟩
  rw [hkey, List.append_assoc]
  refine lineEffect_attribute type hvalue ?_
    (videoGroupEffect_of_none (ssrcGroupEffect_attribute hvalue
      (not_prefix_append (by simp [ascii]) (by simp [ascii]))))
    (ssrcEffect_attribute hvalue (not_prefix_append (by simp [ascii]) (by simp [ascii])))
  unfold transportEffect
  rw [if_pos ((contains_attribute iceUfragKey hvalue).mpr
      ((show ascii "ice-ufrag" <+: ascii "ice-ufrag:" by simp [ascii]).trans
        (List.prefix_append _ _))),
    ← List.append_assoc, hname, List.append_assoc]
  have hattr : getAttribute (ascii "a=ice-ufrag" ++ ([colon] ++ value)) = value :=
    getAttribute_append (by simp [ascii, colon]) (by simp [ascii]) hcolon hne
  rw [hattr, nonEmpty, if_neg hne]
  rfl

/-- The password is set in the transport of the section, and the line has none of the other keys
in it. -/
theorem lineEffect_icePwd (type : MediaType) {value : Bytes} (hne : value ≠ [])
    (hequals : equals ∉ value) (hcolon : colon ∉ value) :
    lineEffect type.mid (ascii "a=ice-pwd:" ++ value)
      = .ok { current := some (type, { transport := .icePwd value }) } := by
  have hkey : ascii "a=ice-pwd:" = ascii "a=" ++ ascii "ice-pwd:" := by simp [ascii]
  have hname : ascii "a=" ++ ascii "ice-pwd:" = ascii "a=ice-pwd" ++ [colon] := by simp [ascii, colon]
  have hvalue : equals ∉ ascii "ice-pwd:" ++ value := by
    rw [List.mem_append, not_or]
    exact ⟨by simp [ascii, equals], hequals⟩
  rw [hkey, List.append_assoc]
  refine lineEffect_attribute type hvalue ?_
    (videoGroupEffect_of_none (ssrcGroupEffect_attribute hvalue
      (not_prefix_append (by simp [ascii]) (by simp [ascii]))))
    (ssrcEffect_attribute hvalue (not_prefix_append (by simp [ascii]) (by simp [ascii])))
  unfold transportEffect
  rw [if_neg ((contains_attribute iceUfragKey hvalue).not.mpr
      (not_prefix_append (by simp [ascii]) (by simp [ascii]))),
    if_pos ((contains_attribute icePwdKey hvalue).mpr
      ((show ascii "ice-pwd" <+: ascii "ice-pwd:" by simp [ascii]).trans
        (List.prefix_append _ _))),
    ← List.append_assoc, hname, List.append_assoc]
  have hattr : getAttribute (ascii "a=ice-pwd" ++ ([colon] ++ value)) = value :=
    getAttribute_append (by simp [ascii, colon]) (by simp [ascii]) hcolon hne
  rw [hattr, nonEmpty, if_neg hne]
  rfl

end Xrtc.Proofs.Pc
