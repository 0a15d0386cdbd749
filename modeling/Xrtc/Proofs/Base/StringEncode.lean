import Mathlib.Data.Nat.Digits.Lemmas
import Xrtc.Base.StringEncode

/-!
# `Xrtc.Proofs.Base.StringEncode`: texts put together are taken apart again

What the functions of `Xrtc.Base.StringEncode` make of a text that is put together from
fields and delimiters (`split_append`, `tokenize_append`, `tokenizeFirst_append`) and of a
printed number (`fromString_decimal`).

A pattern with a character that the text has once can be at one place only
(`infix_iff_of_unique`). The lines of a session description are full of such patterns, with
`=` for the character.
-/

set_option autoImplicit false

namespace Xrtc.Proofs.Base

open Xrtc.Base
open Xrtc.Lib
open Xrtc.Ice (ascii split)

/-! ### Patterns -/

section Infix

variable {α : Type}

/-- A pattern is found in a text exactly at the one place of a character of both. -/
theorem infix_iff_of_unique {x : α} {a b c d : List α} (hc : x ∉ c) (hd : x ∉ d) :
    a ++ x :: b <:+: c ++ x :: d ↔ a <:+ c ∧ b <+: d := by
  constructor
  · rintro ⟨s, t, heq⟩
    have heq' : (s ++ a) ++ x :: (b ++ t) = c ++ x :: d := by simpa using heq
    -- the first `x` of the text is that of the pattern, as there is no other one behind it
    rcases List.append_eq_append_iff.mp heq' with ⟨u, hcu, hbt⟩ | ⟨u, hsa, hxd⟩
    · cases u with
      | nil =>
          rw [List.append_nil] at hcu
          rw [List.nil_append, List.cons.injEq] at hbt
          exact ⟨⟨s, hcu.symm⟩, ⟨t, hbt.2⟩⟩
      | cons y u =>
          rw [List.cons_append, List.cons.injEq] at hbt
          refine absurd ?_ hc
          rw [hcu, ← hbt.1]
          simp
    · cases u with
      | nil =>
          rw [List.append_nil] at hsa
          rw [List.nil_append, List.cons.injEq] at hxd
          exact ⟨⟨s, hsa⟩, ⟨t, hxd.2.symm⟩⟩
      | cons y u =>
          rw [List.cons_append, List.cons.injEq] at hxd
          refine absurd ?_ hd
          rw [hxd.2]
          simp
  · rintro ⟨⟨s, rfl⟩, ⟨t, rfl⟩⟩
    exact ⟨s, t, by simp⟩

end Infix

/-! ### Fields -/

/-- Without a delimiter the rest is one field. -/
theorem split_of_not_mem {delimiter : UInt8} (source : Bytes) (h : delimiter ∉ source) :
    ∀ field, split delimiter field source = [field ++ source] := by
  induction source with
  | nil => exact fun field => by rw [split, List.append_nil]
  | cons b source ih =>
      intro field
      obtain ⟨hb, hsource⟩ := not_or.mp (List.mem_cons.not.mp h)
      rw [split, if_neg (Ne.symm hb), ih hsource, List.append_assoc, List.singleton_append]

/-- The first delimiter ends the first field. -/
theorem split_append {delimiter : UInt8} (a rest : Bytes) (h : delimiter ∉ a) :
    ∀ field, split delimiter field (a ++ delimiter :: rest)
      = (field ++ a) :: split delimiter [] rest := by
  induction a with
  | nil => exact fun field => by rw [List.nil_append, split, if_pos rfl, List.append_nil]
  | cons b a ih =>
      intro field
      obtain ⟨hb, ha⟩ := not_or.mp (List.mem_cons.not.mp h)
      rw [List.cons_append, split, if_neg (Ne.symm hb), ih ha, List.append_assoc,
        List.singleton_append]

/-- There is always a field, if only an empty one. -/
theorem split_ne_nil (delimiter : UInt8) (source : Bytes) :
    ∀ field, split delimiter field source ≠ [] := by
  induction source with
  | nil => exact fun field => by simp [split]
  | cons b source ih =>
      intro field
      rw [split]
      split_ifs
      · simp
      · exact ih _

/-- Fields that are put together. -/
theorem split_fields {delimiter : UInt8} (fields : List Bytes)
    (hfields : ∀ f ∈ fields, delimiter ∉ f) :
    ∀ a : Bytes, delimiter ∉ a →
      split delimiter [] (a ++ fields.flatMap fun f => delimiter :: f) = a :: fields := by
  induction fields with
  | nil =>
      intro a ha
      rw [List.flatMap_nil, List.append_nil, split_of_not_mem a ha, List.nil_append]
  | cons f fields ih =>
      intro a ha
      obtain ⟨hf, hfields⟩ := List.forall_mem_cons.mp hfields
      rw [List.flatMap_cons, List.cons_append, split_append a _ ha, ih hfields f hf, List.nil_append]

/-- The fields of any text, put together again, are the text. -/
theorem split_spec (delimiter : UInt8) (source : Bytes) :
    ∀ field, delimiter ∉ field → ∃ a fields, split delimiter field source = a :: fields ∧
      field ++ source = (a ++ fields.flatMap fun f => delimiter :: f) ∧
      ∀ f ∈ a :: fields, delimiter ∉ f := by
  -- on the text, with the bytes of the current field so far
  induction source with
  | nil =>
      intro field hfield
      exact ⟨field, [], rfl, rfl, List.forall_mem_singleton.mpr hfield⟩
  | cons b source ih =>
      intro field hfield
      rw [split]
      split_ifs with hb
      · subst hb
        obtain ⟨a, fields, hsplit, hjoin, hfields⟩ := ih [] List.not_mem_nil
        rw [List.nil_append] at hjoin
        refine ⟨field, a :: fields, by rw [hsplit], ?_, List.forall_mem_cons.mpr ⟨hfield, hfields⟩⟩
        rw [List.flatMap_cons, List.cons_append, ← hjoin]
      · obtain ⟨a, fields, hsplit, hjoin, hfields⟩ := ih (field ++ [b]) (by simp [hfield, Ne.symm hb])
        rw [List.append_assoc, List.singleton_append] at hjoin
        exact ⟨a, fields, hsplit, hjoin, hfields⟩

/-- Tokens are the fields that are not empty. -/
theorem tokenize_eq_filter (delimiter : UInt8) (source : Bytes) :
    ∀ field, tokenize delimiter field source
      = (split delimiter field source).filter fun f => f ≠ [] := by
  induction source with
  | nil =>
      intro field
      rw [tokenize, split]
      by_cases h : field = []
      · simp [h]
      · simp [h]
  | cons b source ih =>
      intro field
      rw [tokenize, split]
      by_cases hb : b = delimiter
      · rw [if_pos hb, if_pos hb, ih]
        by_cases h : field = []
        · simp [h]
        · simp [h]
      · rw [if_neg hb, if_neg hb, ih]

/-- A text without a delimiter is one field, unless it is empty. -/
theorem tokenize_of_not_mem {delimiter : UInt8} {source : Bytes} (h : delimiter ∉ source)
    (hne : source ≠ []) : tokenize delimiter [] source = [source] := by
  rw [tokenize_eq_filter, split_of_not_mem source h, List.nil_append]
  simp [hne]

/-- The first field is what is in front of the first delimiter. -/
theorem tokenize_append {delimiter : UInt8} {a : Bytes} (h : delimiter ∉ a) (hne : a ≠ [])
    (rest : Bytes) :
    tokenize delimiter [] (a ++ delimiter :: rest) = a :: tokenize delimiter [] rest := by
  rw [tokenize_eq_filter, tokenize_eq_filter, split_append a rest h, List.nil_append]
  simp [hne]

/-- Fields joined by single delimiters come apart again. -/
theorem tokenize_fields {delimiter : UInt8} {fields : List Bytes}
    (hfields : ∀ f ∈ fields, delimiter ∉ f ∧ f ≠ []) {a : Bytes} (ha : delimiter ∉ a)
    (hne : a ≠ []) :
    tokenize delimiter [] (a ++ fields.flatMap fun f => delimiter :: f) = a :: fields := by
  rw [tokenize_eq_filter, split_fields fields (fun f hf => (hfields f hf).1) a ha,
    List.filter_cons_of_pos (by simpa using hne),
    List.filter_eq_self.mpr fun f hf => by simpa using (hfields f hf).2]

/-- The first field and what is behind it, if no second delimiter follows at once. The source
skips a run of delimiters there. -/
theorem tokenizeFirst_append {delimiter : UInt8} {a rest : Bytes} (h : delimiter ∉ a)
    (hrest : rest.head? ≠ some delimiter) :
    tokenizeFirst delimiter (a ++ delimiter :: rest) = some (a, rest) := by
  have hall : ∀ b ∈ a, decide (b ≠ delimiter) = true := by
    intro b hb
    rw [decide_eq_true_iff]
    rintro rfl
    exact h hb
  have hdrop : (a ++ delimiter :: rest).dropWhile (· ≠ delimiter) = delimiter :: rest := by
    rw [List.dropWhile_append_of_pos hall, List.dropWhile_cons_of_neg (by simp)]
  have htake : (a ++ delimiter :: rest).takeWhile (· ≠ delimiter) = a := by
    rw [List.takeWhile_append_of_pos hall, List.takeWhile_cons_of_neg (by simp), List.append_nil]
  have hskip : rest.dropWhile (· = delimiter) = rest := by
    cases rest with
    | nil => rfl
    | cons b rest =>
        refine List.dropWhile_cons_of_neg ?_
        simpa using hrest
  unfold tokenizeFirst
  rw [hdrop, htake]
  dsimp only
  rw [hskip]

/-- What stands before and behind the first delimiter. -/
theorem tokenizeFirst_spec {delimiter : UInt8} {source a rest : Bytes}
    (h : tokenizeFirst delimiter source = some (a, rest)) :
    delimiter ∉ a ∧ rest.head? ≠ some delimiter ∧ ∀ b ∈ a ++ rest, b ∈ source := by
  unfold tokenizeFirst at h
  cases hdrop : source.dropWhile (· ≠ delimiter) with
  | nil =>
      rw [hdrop] at h
      cases h
  | cons b tail =>
      rw [hdrop] at h
      cases h
      refine ⟨fun hmem => ?_, fun hhead => ?_, fun c hc => ?_⟩
      · have htake := List.all_eq_true.mp List.all_takeWhile delimiter hmem
        simp at htake
      · have hskip := List.head?_dropWhile_not (· = delimiter) tail
        rw [hhead] at hskip
        simp at hskip
      · rcases List.mem_append.mp hc with hc | hc
        · exact (List.takeWhile_sublist _).subset hc
        · have htail : c ∈ source.dropWhile (· ≠ delimiter) := by
            rw [hdrop]
            exact List.mem_cons_of_mem b ((List.dropWhile_sublist _).subset hc)
          exact (List.dropWhile_sublist _).subset htail

/-! ### Numbers -/

/-- The digit of a number below ten. -/
theorem digit_isDigit {d : Nat} (h : d < 10) : isDigit (UInt8.ofNat (0x30 + d)) = true := by
  interval_cases d <;> rfl

/-- A number is printed in digits only. -/
theorem decimal_isDigit (n : Nat) : ∀ b ∈ decimal n, isDigit b = true := by
  intro b hb
  unfold decimal at hb
  split at hb
  · rw [List.mem_singleton.mp hb]
    rfl
  · obtain ⟨d, hd, rfl⟩ := List.mem_map.mp hb
    exact digit_isDigit (Nat.digits_lt_base (by decide) (List.mem_reverse.mp hd))

/-- It has a digit, zero too. -/
theorem decimal_ne_nil (n : Nat) : decimal n ≠ [] := by
  unfold decimal
  split
  · exact List.cons_ne_nil _ _
  · rename_i h
    simpa [Nat.digits_eq_nil_iff_eq_zero] using h

/-- What is read first of a printed number. -/
theorem decimal_eq_cons (n : Nat) : ∃ b digits, decimal n = b :: digits ∧ isDigit b = true := by
  obtain ⟨b, digits, hb⟩ := List.exists_cons_of_ne_nil (decimal_ne_nil n)
  exact ⟨b, digits, hb, decimal_isDigit n b (hb ▸ List.mem_cons_self)⟩

/-- A digit is no other byte, such as a separator. -/
theorem ne_of_isDigit {b c : UInt8} (hb : isDigit b = true) (hc : isDigit c = false) : b ≠ c := by
  rintro rfl
  rw [hb] at hc
  cases hc

/-- A character that is no digit is not in a number. -/
theorem not_mem_decimal {b : UInt8} (h : isDigit b = false) (n : Nat) : b ∉ decimal n := by
  intro hb
  rw [decimal_isDigit n b hb] at h
  cases h

/-- In front of something that is no digit, the digits are taken to the last one. -/
theorem takeWhile_decimal (n : Nat) (rest : Bytes) (h : rest.head?.all fun b => !isDigit b) :
    (decimal n ++ rest).takeWhile isDigit = decimal n := by
  rw [List.takeWhile_append_of_pos (decimal_isDigit n)]
  cases rest with
  | nil => rw [List.takeWhile_nil, List.append_nil]
  | cons b rest =>
      rw [List.takeWhile_cons_of_neg (by simpa using h), List.append_nil]

/-- What is behind them is left. -/
theorem dropWhile_decimal (n : Nat) (rest : Bytes) (h : rest.head?.all fun b => !isDigit b) :
    (decimal n ++ rest).dropWhile isDigit = rest := by
  rw [List.dropWhile_append_of_pos (decimal_isDigit n)]
  cases rest with
  | nil => rfl
  | cons b rest => rw [List.dropWhile_cons_of_neg (by simpa using h)]

/-- Reading a printed number. -/
theorem ofDigits_decimal (n : Nat) : ofDigits (decimal n) = n := by
  unfold decimal
  by_cases h : n = 0
  · rw [if_pos h, h]
    rfl
  · rw [if_neg h]
    unfold ofDigits
    rw [List.foldl_map, List.foldl_reverse]
    have hfoldr : ∀ ds : List Nat, (∀ d ∈ ds, d < 10) →
        ds.foldr (fun d v => 10 * v + ((UInt8.ofNat (0x30 + d)).toNat - 0x30)) 0
          = Nat.ofDigits 10 ds := by
      intro ds
      induction ds with
      | nil => exact fun _ => rfl
      | cons d ds ih =>
          intro hds
          have hd := hds d List.mem_cons_self
          rw [List.foldr_cons, ih fun e he => hds e (List.mem_cons_of_mem _ he), Nat.ofDigits_cons,
            UInt8.toNat_ofNat']
          have hmod : (0x30 + d) % 2 ^ 8 = 0x30 + d := Nat.mod_eq_of_lt (by omega)
          rw [hmod]
          omega
    rw [hfoldr _ fun d hd => Nat.digits_lt_base (by decide) hd, Nat.ofDigits_digits]

/-- A text without a null character is read to its end. -/
theorem cStr_of_not_mem {s : Bytes} (h : (0 : UInt8) ∉ s) : cStr s = s := by
  have hall : ∀ b ∈ s, decide (b ≠ 0) = true := by
    intro b hb
    rw [decide_eq_true_iff]
    rintro rfl
    exact h hb
  have htake : (s ++ []).takeWhile (· ≠ 0) = s ++ ([] : Bytes).takeWhile (· ≠ 0) :=
    List.takeWhile_append_of_pos hall
  rw [List.append_nil, List.takeWhile_nil, List.append_nil] at htake
  exact htake

/-- A printed `uint32_t` is read back. -/
theorem fromString_decimal (n : UInt32) : fromString (decimal n.toNat) = some n := by
  have hdigits := decimal_isDigit n.toNat
  have hcStr := cStr_of_not_mem (not_mem_decimal (by decide) n.toNat)
  have hhead : (decimal n.toNat).head? ≠ some minus := by
    intro h
    have hb := hdigits minus (List.mem_of_head? h)
    cases hb
  unfold fromString
  dsimp only
  rw [hcStr]
  simp only [hhead, if_false, false_and, or_false]
  rw [if_neg, if_neg, ofDigits_decimal, UInt32.ofNat_toNat]
  · rw [ofDigits_decimal]
    exact not_le.mpr n.toNat_lt
  · rw [not_or, not_not, List.all_eq_true]
    exact ⟨decimal_ne_nil _, hdigits⟩

end Xrtc.Proofs.Base
