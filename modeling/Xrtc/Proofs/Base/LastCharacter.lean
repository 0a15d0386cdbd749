import Mathlib.Data.List.Count
import Xrtc.Proofs.Base.StringEncode

/-!
# `Xrtc.Proofs.Base.LastCharacter`: texts with one character more

What the functions of `Xrtc.Base.StringEncode` make of a text with one character behind it,
given what they make of the text. A key with another last character is found in both or in
neither (`infix_concat_of_ne`). The character extends the last field, or is the delimiter that
starts a new one (`split_concat`). A token is extended too, unless the text ends with the
delimiter, and then the character is a new token (`tokenize_concat_of_ne`). A number stays the
same only behind a null character, or if it is zero (`fromString_concat`).
-/

set_option autoImplicit false

namespace Xrtc.Proofs.Base

open Xrtc.Base
open Xrtc.Lib
open Xrtc.Ice (ascii colon split)

/-! ### Keys -/

/-- A key that is in a text is in the longer one. -/
theorem infix_concat_of_within {key text : Bytes} (h : key <:+: text) (c : UInt8) :
    key <:+: text ++ [c] :=
  h.trans (List.prefix_append text [c]).isInfix

/-- A key is completed by its last character only. -/
theorem infix_concat_of_ne {key text : Bytes} {c d : UInt8} (hkey : key.getLast? = some d)
    (hne : d ≠ c) : key <:+: text ++ [c] ↔ key <:+: text := by
  rw [List.infix_concat_iff]
  refine or_iff_right ?_
  intro hsuffix
  rcases List.suffix_concat_iff.mp hsuffix with rfl | ⟨front, rfl, -⟩
  · cases hkey
  · rw [List.getLast?_concat, Option.some.injEq] at hkey
    exact hne hkey.symm

/-- What stands before the last character of a key that is completed ends the text. -/
theorem suffix_of_completed {front text : Bytes} {c d : UInt8} (h : front ++ [d] <:+: text ++ [c])
    (h' : ¬ front ++ [d] <:+: text) : front <:+ text := by
  rcases List.infix_concat_iff.mp h with hsuffix | hinfix
  · rcases List.suffix_concat_iff.mp hsuffix with hnil | ⟨front', hfront, hsuffix⟩
    · exact absurd hnil (by simp)
    · obtain ⟨rfl, -⟩ := List.append_inj' hfront rfl
      exact hsuffix
  · exact absurd hinfix h'

/-! ### Fields -/

/-- There is always a last field. -/
theorem exists_split_eq_concat (delimiter : UInt8) (source field : Bytes) :
    ∃ front last, split delimiter field source = front ++ [last] := by
  rcases List.eq_nil_or_concat' (split delimiter field source) with hnil | ⟨front, last, h⟩
  · exact absurd hnil (split_ne_nil delimiter source field)
  · exact ⟨front, last, h⟩

/-- The delimiter starts a field, and another character goes to the last one. -/
theorem split_concat (delimiter c : UInt8) (source : Bytes) :
    ∀ field front last, split delimiter field source = front ++ [last] →
      split delimiter field (source ++ [c]) =
        if c = delimiter then front ++ [last, []] else front ++ [last ++ [c]] := by
  -- on the text, with the bytes of the current field so far
  induction source with
  | nil =>
      intro field front last h
      obtain ⟨rfl, hlast⟩ := List.append_inj' (show [] ++ [field] = front ++ [last] from h) rfl
      cases hlast
      rw [List.nil_append, split, split, split, List.nil_append, List.nil_append]
  | cons b source ih =>
      intro field front last h
      rw [List.cons_append, split]
      rw [split] at h
      by_cases hb : b = delimiter
      · rw [if_pos hb] at h ⊢
        -- the field before the delimiter is not the last one
        obtain ⟨front', last', hsplit⟩ := exists_split_eq_concat delimiter source []
        rw [hsplit, ← List.cons_append] at h
        obtain ⟨rfl, hlast⟩ := List.append_inj' h rfl
        cases hlast
        rw [ih [] front' last hsplit]
        split_ifs <;> rfl
      · rw [if_neg hb] at h ⊢
        exact ih (field ++ [b]) front last h

/-- There is one field more than there are delimiters. -/
theorem length_split (delimiter : UInt8) (source : Bytes) :
    ∀ field, (split delimiter field source).length = source.count delimiter + 1 := by
  induction source with
  | nil => exact fun field => rfl
  | cons b source ih =>
      intro field
      rw [split, List.count_cons]
      by_cases hb : b = delimiter
      · rw [if_pos hb, List.length_cons, ih, if_pos (by simpa using hb)]
      · rw [if_neg hb, ih, if_neg (by simpa using hb)]

/-- The last field is empty exactly at the beginning of a text and behind a delimiter. -/
theorem lastField_eq_nil_iff {delimiter : UInt8} (source : Bytes) :
    ∀ {field front last}, split delimiter field source = front ++ [last] →
      (last = [] ↔ ∀ b ∈ (field ++ source).getLast?, source ≠ [] ∧ b = delimiter) := by
  intro field front last h
  rcases List.eq_nil_or_concat' source with rfl | ⟨source, c, rfl⟩
  · obtain ⟨rfl, hlast⟩ := List.append_inj' (show [] ++ [field] = front ++ [last] from h) rfl
    cases hlast
    rw [List.append_nil]
    constructor
    · rintro rfl
      intro b hb
      cases hb
    · intro hall
      rw [← List.getLast?_eq_none_iff, Option.eq_none_iff_forall_not_mem]
      intro b hb
      exact (hall b hb).1 rfl
  · obtain ⟨front', last', hsplit⟩ := exists_split_eq_concat delimiter source field
    rw [split_concat delimiter c source field front' last' hsplit] at h
    rw [← List.append_assoc, List.getLast?_concat]
    split_ifs at h with hc
    · have hfields : (front' ++ [last']) ++ [[]] = front ++ [last] := by
        rw [← h, List.append_assoc]
        rfl
      obtain ⟨-, hlast⟩ := List.append_inj' hfields rfl
      cases hlast
      simp [hc]
    · obtain ⟨-, hlast⟩ := List.append_inj' h rfl
      cases hlast
      simp [hc]

/-! ### Tokens -/

/-- A character that is no delimiter is in a token. -/
theorem tokenize_ne_nil {delimiter b : UInt8} {source : Bytes} (h : b ∈ source)
    (hne : b ≠ delimiter) : tokenize delimiter [] source ≠ [] := by
  intro hnil
  rw [tokenize_eq_filter, List.filter_eq_nil_iff] at hnil
  obtain ⟨a, fields, hsplit, hjoin, -⟩ := split_spec delimiter source [] List.not_mem_nil
  rw [hsplit] at hnil
  rw [List.nil_append] at hjoin
  rw [hjoin, List.mem_append, List.mem_flatMap] at h
  -- otherwise all fields are empty
  have hempty : ∀ f ∈ a :: fields, f = [] := by
    intro f hf
    simpa using hnil f hf
  rcases h with hb | ⟨f, hf, hb⟩
  · rw [hempty a List.mem_cons_self] at hb
    cases hb
  · rw [hempty f (List.mem_cons_of_mem a hf)] at hb
    exact hne (List.mem_singleton.mp hb)

/-- The delimiter behind a text changes no token. -/
theorem tokenize_concat_self (delimiter : UInt8) (source : Bytes) :
    tokenize delimiter [] (source ++ [delimiter]) = tokenize delimiter [] source := by
  obtain ⟨front, last, hsplit⟩ := exists_split_eq_concat delimiter source []
  rw [tokenize_eq_filter, tokenize_eq_filter, split_concat _ _ _ _ _ _ hsplit, if_pos rfl, hsplit,
    List.filter_append, List.filter_append]
  simp [List.filter_cons]

/-- Behind a delimiter another character is a new token. -/
theorem tokenize_concat_new {delimiter c : UInt8} {source : Bytes}
    (h : ∀ b ∈ source.getLast?, b = delimiter) (hc : c ≠ delimiter) :
    tokenize delimiter [] (source ++ [c]) = tokenize delimiter [] source ++ [[c]] := by
  obtain ⟨front, last, hsplit⟩ := exists_split_eq_concat delimiter source []
  have hlast : last = [] := by
    refine (lastField_eq_nil_iff source hsplit).mpr ?_
    intro b hb
    refine ⟨?_, h b hb⟩
    rintro rfl
    cases hb
  subst hlast
  rw [tokenize_eq_filter, tokenize_eq_filter, split_concat _ _ _ _ _ _ hsplit, if_neg hc, hsplit,
    List.filter_append, List.filter_append]
  simp

/-- Elsewhere it makes the last token longer. -/
theorem tokenize_concat_longer {delimiter b c : UInt8} {source : Bytes}
    (hb : source.getLast? = some b) (hne : b ≠ delimiter) (hc : c ≠ delimiter) :
    ∃ front last, tokenize delimiter [] source = front ++ [last] ∧ last ≠ [] ∧
      tokenize delimiter [] (source ++ [c]) = front ++ [last ++ [c]] := by
  obtain ⟨front, last, hsplit⟩ := exists_split_eq_concat delimiter source []
  have hlast : last ≠ [] := by
    intro hlast
    exact hne ((lastField_eq_nil_iff source hsplit).mp hlast b hb).2
  refine ⟨front.filter (· ≠ []), last, ?_, hlast, ?_⟩
  · rw [tokenize_eq_filter, hsplit, List.filter_append]
    simp [hlast]
  · rw [tokenize_eq_filter, split_concat _ _ _ _ _ _ hsplit, if_neg hc, List.filter_append]
    simp

/-- What stands before the first delimiter stays, and the new character goes to the rest. A
delimiter behind an empty rest is skipped like those in front of it. -/
theorem tokenizeFirst_concat {delimiter : UInt8} {source a rest : Bytes}
    (h : tokenizeFirst delimiter source = some (a, rest)) (c : UInt8) :
    tokenizeFirst delimiter (source ++ [c]) =
      some (a, if rest = [] ∧ c = delimiter then [] else rest ++ [c]) := by
  unfold tokenizeFirst at h ⊢
  cases hdrop : source.dropWhile (· ≠ delimiter) with
  | nil =>
      rw [hdrop] at h
      cases h
  | cons b tail =>
      rw [hdrop] at h
      cases h
      have hdrop' : (source ++ [c]).dropWhile (· ≠ delimiter) = b :: (tail ++ [c]) := by
        rw [List.dropWhile_append, hdrop]
        rfl
      have htake : (source ++ [c]).takeWhile (· ≠ delimiter) = source.takeWhile (· ≠ delimiter) := by
        have hlength := congrArg List.length
          (List.takeWhile_append_dropWhile (p := (· ≠ delimiter)) (l := source))
        rw [List.length_append, hdrop, List.length_cons] at hlength
        rw [List.takeWhile_append, if_neg (by omega)]
      rw [hdrop', htake]
      dsimp only
      rw [List.dropWhile_append]
      cases hskip : tail.dropWhile (· = delimiter) with
      | nil =>
          by_cases hc : c = delimiter
          · simp [hc]
          · simp [hc]
      | cons b' tail' => simp

/-! ### Numbers -/

/-- Behind a zero byte one character more is not seen: the string ended there. -/
theorem cStr_concat_of_mem {f : Bytes} {c : UInt8} (h : 0 ∈ f ++ [c]) : cStr (f ++ [c]) = cStr f := by
  unfold cStr
  rw [List.takeWhile_append]
  split_ifs with hlength
  · -- the null character is the last one
    have hall : f.takeWhile (· ≠ 0) = f :=
      (List.takeWhile_prefix _).eq_of_length hlength
    have hnone : (0 : UInt8) ∉ f := by
      intro hmem
      rw [← hall] at hmem
      have hne := List.all_eq_true.mp List.all_takeWhile 0 hmem
      simp at hne
    have hc : c = 0 := by
      rcases List.mem_append.mp h with hmem | hmem
      · exact absurd hmem hnone
      · exact (List.mem_singleton.mp hmem).symm
    rw [hc, hall, List.takeWhile_cons_of_neg (by simp), List.append_nil]
  · rfl

/-- One digit more. -/
theorem ofDigits_concat (digits : Bytes) (c : UInt8) :
    ofDigits (digits ++ [c]) = 10 * ofDigits digits + (c.toNat - 0x30) := by
  unfold ofDigits
  rw [List.foldl_append]
  rfl

/-- The digits of a number, without a minus sign. -/
def digitsOf (s : Bytes) : Bytes := if s.head? = some minus then s.drop 1 else s

/-- What makes a text a number. -/
theorem fromString_eq_some {s : Bytes} {a : UInt32} (h : fromString s = some a) :
    digitsOf (cStr s) ≠ [] ∧ (∀ b ∈ digitsOf (cStr s), isDigit b = true) ∧
      a.toNat = ofDigits (digitsOf (cStr s)) := by
  have hread : fromString s = if digitsOf (cStr s) = [] ∨ ¬ (digitsOf (cStr s)).all isDigit then none
      else if 2 ^ 32 ≤ ofDigits (digitsOf (cStr s)) ∨ ((cStr s).head? = some minus ∧
        ofDigits (digitsOf (cStr s)) ≠ 0) then none
      else some (UInt32.ofNat (ofDigits (digitsOf (cStr s)))) := by
    unfold fromString digitsOf
    simp only
  rw [hread] at h
  by_cases hdigits : digitsOf (cStr s) = [] ∨ ¬ (digitsOf (cStr s)).all isDigit
  · rw [if_pos hdigits] at h
    cases h
  rw [if_neg hdigits] at h
  rw [not_or, not_not, List.all_eq_true] at hdigits
  refine ⟨hdigits.1, hdigits.2, ?_⟩
  obtain ⟨hvalue, hnumber⟩ := ite_eq_iff.mp h |>.resolve_left (fun hnone => nomatch hnone.2)
  rw [not_or, not_le] at hvalue
  cases hnumber
  rw [UInt32.toNat_ofNat']
  exact Nat.mod_eq_of_lt hvalue.1

/-- A digit behind a number changes it, unless the number has ended before at a null
character, or both are zero. -/
theorem fromString_concat {f : Bytes} {c : UInt8} {a a' : UInt32} (h : fromString f = some a)
    (h' : fromString (f ++ [c]) = some a') :
    a = a' ↔ (0 ∈ f ++ [c] ∨ (a = 0 ∧ c = 0x30)) := by
  -- the number ends at a null character, so nothing behind it counts
  by_cases hnull : 0 ∈ f ++ [c]
  · refine iff_of_true ?_ (.inl hnull)
    have hsame : fromString (f ++ [c]) = fromString f := by
      unfold fromString
      rw [cStr_concat_of_mem hnull]
    rw [hsame, h] at h'
    exact Option.some.inj h'
  · obtain ⟨hne, -, hvalue⟩ := fromString_eq_some h
    obtain ⟨-, hall, hvalue'⟩ := fromString_eq_some h'
    have hnull' : 0 ∉ f := fun hmem => hnull (List.mem_append_left _ hmem)
    rw [cStr_of_not_mem hnull'] at hne hvalue
    rw [cStr_of_not_mem hnull] at hall hvalue'
    -- the sign is at the front, which is there in both
    have hdigits : digitsOf (f ++ [c]) = digitsOf f ++ [c] := by
      unfold digitsOf at hne ⊢
      cases f with
      | nil => exact absurd rfl hne
      | cons b f =>
          rw [List.cons_append, List.head?_cons, List.head?_cons]
          by_cases hminus : some b = some minus
          · rw [if_pos hminus, if_pos hminus]
            rfl
          · rw [if_neg hminus, if_neg hminus]
            rfl
    rw [hdigits] at hall hvalue'
    rw [ofDigits_concat] at hvalue'
    have hc : isDigit c = true := hall c (List.mem_append_right _ (List.mem_singleton_self c))
    have hc : 0x30 ≤ c.toNat := by
      simp only [isDigit, Bool.and_eq_true, decide_eq_true_eq, UInt8.le_iff_toNat_le] at hc
      exact hc.1
    rw [or_iff_right hnull, ← UInt32.toNat_inj, hvalue, hvalue', ← UInt32.toNat_inj, hvalue,
      ← UInt8.toNat_inj]
    have hzero : (0 : UInt32).toNat = 0 := rfl
    have hchar : (0x30 : UInt8).toNat = 0x30 := rfl
    -- `10 * a + d = a` only for `a = 0` and `d = 0`
    omega

/-! ### Fingerprints -/

/-- The bytes of a digest have a delimiter between any two. -/
theorem length_of_hexDecodeLoop {delimiter : UInt8} : ∀ {source digest : Bytes},
    hexDecodeLoop delimiter source = some digest → source = [] ∨ source.length % 3 = 2
  | [], _, _ => .inl rfl
  | [_], _, h => by cases h
  | [_, _], _, _ => .inr rfl
  | [c1, c2, _], _, h => by
      rw [hexDecodeLoop] at h
      cases h1 : hexDecode c1 <;> cases h2 : hexDecode c2 <;> simp [h1, h2] at h
  | c1 :: c2 :: separator :: b :: source, digest, h => by
      rw [hexDecodeLoop] at h
      · obtain ⟨h1, -, h⟩ := Option.bind_eq_some_iff.mp h
        obtain ⟨h2, -, h⟩ := Option.bind_eq_some_iff.mp h
        split at h
        · cases h
        obtain ⟨rest, hrest, -⟩ := Option.bind_eq_some_iff.mp h
        rcases length_of_hexDecodeLoop hrest with hnil | hlength
        · cases hnil
        · refine .inr ?_
          simp only [List.length_cons] at hlength ⊢
          omega
      · intro hnil
        cases hnil

/-- So a fingerprint is no fingerprint with one character more. -/
theorem hexDecodeWithDelimiter_concat {delimiter c : UInt8} {buflen : Nat} {source : Bytes}
    (h : (hexDecodeWithDelimiter buflen source delimiter).isSome) :
    hexDecodeWithDelimiter buflen (source ++ [c]) delimiter = none := by
  have hlength : ∀ {source digest : Bytes},
      hexDecodeWithDelimiter buflen source delimiter = some digest → source.length % 3 = 2 := by
    intro source digest hdecode
    unfold hexDecodeWithDelimiter at hdecode
    split at hdecode
    · cases hdecode
    · obtain ⟨hloop, hne⟩ := Option.filter_eq_some_iff.mp hdecode
      rcases length_of_hexDecodeLoop hloop with rfl | hlength
      · cases hloop
        simp at hne
      · exact hlength
  obtain ⟨digest, hdigest⟩ := Option.isSome_iff_exists.mp h
  rw [Option.eq_none_iff_forall_ne_some]
  intro digest' hdigest'
  have hshort := hlength hdigest
  have hlong := hlength hdigest'
  rw [List.length_append, List.length_singleton] at hlong
  omega

end Xrtc.Proofs.Base
