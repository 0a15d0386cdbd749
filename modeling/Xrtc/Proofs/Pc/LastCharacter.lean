import Xrtc.Lib.Grouping
import Xrtc.Proofs.Base.LastCharacter
import Xrtc.Proofs.Pc.AcceptedAnswer

/-!
# `Xrtc.Proofs.Pc.LastCharacter`: a line with one character more

What `set_remote_sdp` makes of a line `x`, and of the same line with one character more,
`x ++ [c]`. Each part of the loop body has a condition of its own on the bytes of the line:
the groups of names (`BundleKept`), the section that an `m=` line opens (`OpeningKept`) and,
with what the section has already, the transport (`TransportKept`). Each of them holds exactly
if that part of the loop body does the same with both lines (`bundleOf_concat_iff`,
`openedSection_concat_iff`, `transport_concat_iff`).

The character may complete a key, so that only the longer line has it. Then the two do the same
only if what the line says is known already (`TransportSet`). The ssrcs of a section are in
`Xrtc.Proofs.Pc.LastSsrc`.
-/

set_option autoImplicit false

namespace Xrtc.Proofs.Pc

open Xrtc.Base
open Xrtc.Lib
open Xrtc.Ice (ascii colon split)
open Xrtc.Pc
open Xrtc.Proofs.Base

/-! ### The names of a group -/

/-- The last name of a group may be one character longer: both names stand before it. -/
def LastNameKept (names : List Bytes) (c : UInt8) : Prop :=
  ∃ earlier name, names = earlier ++ [name] ∧ name ∈ earlier ∧ name ++ [c] ∈ earlier

/-- The names that a line gives to a group. -/
def groupNames (line : Bytes) : List Bytes := (split space [] line).tail

/-- The last character changes no group: it completes no key of a group with names, and the
name that it changes or starts is one that the group has anyway. -/
def BundleKept (x : Bytes) (c : UInt8) : Prop :=
  ascii "m=group:BUNDLE" <:+: x ++ [c] →
    (space ∉ x ∧ c ≠ space) ∨
      (ascii "m=group:BUNDLE" <:+: x ∧
        if c = space then [] ∈ groupNames x else LastNameKept (groupNames x) c)

/-- A group has the first occurrences of its names. -/
theorem foldl_addContentName_firsts (semantics : Bytes) (names : List Bytes) :
    names.foldl ContentGroup.addContentName ⟨semantics, []⟩ = ⟨semantics, firsts names⟩ := by
  induction names using List.reverseRecOn with
  | nil => rfl
  | append_singleton names name ih =>
      rw [List.foldl_append, ih, List.foldl_cons, List.foldl_nil, ContentGroup.addContentName,
        firsts_concat]
      simp only [List.contains_iff_mem, mem_firsts]
      split_ifs <;> rfl

/-- One more name makes no difference if it stands before. -/
theorem firsts_concat_eq_iff (names : List Bytes) (name : Bytes) :
    firsts (names ++ [name]) = firsts names ↔ name ∈ names := by
  rw [firsts_concat]
  split_ifs with hmem
  · simp [hmem]
  · simp [hmem]

/-- Two last names make no difference if both stand before. -/
theorem firsts_concat_inj {names : List Bytes} {name name' : Bytes} (hne : name ≠ name') :
    firsts (names ++ [name]) = firsts (names ++ [name']) ↔ name ∈ names ∧ name' ∈ names := by
  rw [firsts_concat, firsts_concat]
  split_ifs with hmem hmem' hmem'
  · simp [hmem, hmem']
  · simp [hmem, hmem']
  · simp [hmem]
  · simp [hmem, hne]

/-- A name that gets longer. -/
theorem lastNameKept_iff (earlier : List Bytes) (name : Bytes) (c : UInt8) :
    firsts (earlier ++ [name]) = firsts (earlier ++ [name ++ [c]]) ↔
      LastNameKept (earlier ++ [name]) c := by
  rw [firsts_concat_inj (by simp)]
  constructor
  · rintro ⟨hname, hlonger⟩
    exact ⟨earlier, name, rfl, hname, hlonger⟩
  · rintro ⟨earlier', name', heq, hname, hlonger⟩
    obtain ⟨rfl, hlast⟩ := List.append_inj' heq rfl
    cases hlast
    exact ⟨hname, hlonger⟩

/-- A line without a blank gives no names. -/
theorem groupNames_eq_nil_iff {line : Bytes} : groupNames line = [] ↔ space ∉ line := by
  rw [groupNames, ← List.length_eq_zero_iff, List.length_tail, length_split, Nat.add_sub_cancel,
    List.count_eq_zero]

/-- The group of a line, from its names: the fields behind the first one, each once, in the order
they are first mentioned in. -/
theorem bundleOf_eq (line : Bytes) : bundleOf line =
    if ascii "m=group:BUNDLE" <:+: line ∧ space ∈ line then
      some ⟨ascii "BUNDLE", firsts (groupNames line)⟩
    else none := by
  unfold bundleOf
  by_cases hkey : ascii "m=group:BUNDLE" <:+: line
  · rw [if_pos hkey]
    by_cases hspace : space ∈ line
    · rw [if_pos ⟨hkey, hspace⟩]
      have hne : groupNames line ≠ [] := fun hnil => groupNames_eq_nil_iff.mp hnil hspace
      unfold groupNames at hne ⊢
      rcases hsplit : split space [] line with _ | ⟨item, _ | ⟨name, names⟩⟩
      · rw [hsplit] at hne
        exact absurd rfl hne
      · rw [hsplit] at hne
        exact absurd rfl hne
      · dsimp only
        rw [foldl_addContentName_firsts]
        rfl
    · rw [if_neg (fun h => hspace h.2)]
      have hnil := groupNames_eq_nil_iff.mpr hspace
      unfold groupNames at hnil
      rcases hsplit : split space [] line with _ | ⟨item, _ | ⟨name, names⟩⟩
      · rfl
      · rfl
      · rw [hsplit] at hnil
        cases hnil
  · rw [if_neg hkey, if_neg (fun h => hkey h.1)]

/-- The names of a line with one character more. -/
theorem groupNames_concat {x : Bytes} (hspace : space ∈ x) (c : UInt8) :
    if c = space then groupNames (x ++ [c]) = groupNames x ++ [[]]
    else ∃ earlier name, groupNames x = earlier ++ [name] ∧
      groupNames (x ++ [c]) = earlier ++ [name ++ [c]] := by
  obtain ⟨front, last, hsplit⟩ := exists_split_eq_concat space x []
  have hne : groupNames x ≠ [] := fun hnil => groupNames_eq_nil_iff.mp hnil hspace
  obtain ⟨item, front, rfl⟩ : ∃ item front', front = item :: front' := by
    refine List.exists_cons_of_ne_nil ?_
    rintro rfl
    exact hne (by rw [groupNames, hsplit]; rfl)
  unfold groupNames
  rw [split_concat _ _ _ _ _ _ hsplit, hsplit]
  split_ifs with hc
  · simp
  · exact ⟨front, last, rfl, rfl⟩

/-- The two lines add the same group exactly under this condition. The character belongs to the
last name, or begins a new one behind a blank. -/
theorem bundleOf_concat_iff (x : Bytes) (c : UInt8) :
    bundleOf x = bundleOf (x ++ [c]) ↔ BundleKept x c := by
  have hcomplete : c = space →
      (ascii "m=group:BUNDLE" <:+: x ++ [c] ↔ ascii "m=group:BUNDLE" <:+: x) := by
    rintro rfl
    exact infix_concat_of_ne (d := 0x45) (by decide +kernel) (by decide)
  unfold BundleKept
  rw [bundleOf_eq, bundleOf_eq]
  by_cases hlong : ascii "m=group:BUNDLE" <:+: x ++ [c]
  case neg =>
    have hshort : ¬ ascii "m=group:BUNDLE" <:+: x := fun h => hlong (infix_concat_of_within h c)
    rw [if_neg (fun h => hshort h.1), if_neg (fun h => hlong h.1)]
    exact iff_of_true rfl fun h => absurd h hlong
  simp only [hlong, forall_true_left, true_and]
  by_cases hspace : space ∈ x
  · have hspace' : space ∈ x ++ [c] := List.mem_append_left _ hspace
    rw [if_pos hspace']
    have hfields := groupNames_concat hspace c
    by_cases hshort : ascii "m=group:BUNDLE" <:+: x
    · rw [if_pos ⟨hshort, hspace⟩]
      simp only [hspace, hshort, not_true_eq_false, false_and, false_or, true_and,
        Option.some.injEq, ContentGroup.mk.injEq]
      by_cases hc : c = space
      · rw [if_pos hc] at hfields ⊢
        rw [hfields, eq_comm, firsts_concat_eq_iff]
      · rw [if_neg hc] at hfields ⊢
        obtain ⟨earlier, name, hnames, hlonger⟩ := hfields
        rw [hnames, hlonger, lastNameKept_iff]
    · rw [if_neg (fun h => hshort h.1)]
      simp [hspace, hshort]
  · rw [if_neg (fun h => hspace h.2)]
    by_cases hc : c = space
    · -- the blank starts an empty name
      have hshort := (hcomplete hc).mp hlong
      have hnil := groupNames_eq_nil_iff.mpr hspace
      rw [if_pos (by simp [hc])]
      simp [hc, hnil]
    · have hspace' : space ∉ x ++ [c] := by
        rw [List.mem_append, not_or]
        exact ⟨hspace, fun h => hc (List.mem_singleton.mp h).symm⟩
      rw [if_neg hspace']
      simp [hspace, hc]

/-! ### The section of an `m=` line -/

/-- The last character changes no section. In a line of two fields it does not start the third
one, and in a longer line it completes no key. -/
def OpeningKept (x : Bytes) (c : UInt8) : Prop :=
  sectionType ((firstField x).drop 2) ≠ none →
    (2 ≤ x.count space → (IsMedia x ↔ IsMedia (x ++ [c]))) ∧
      (x.count space = 1 → c = space → ¬ IsMedia x)

/-- The section that a line opens: one of the two, and not if the line has too few fields. -/
def openedSection (line : Bytes) : Option MediaType :=
  if IsMedia line ∧ 2 ≤ line.count space then sectionType ((firstField line).drop 2) else none

/-- Behind a blank the first field stays. -/
theorem firstField_concat {x : Bytes} (hspace : space ∈ x) (c : UInt8) :
    firstField (x ++ [c]) = firstField x := by
  obtain ⟨item, rest, rfl, hitem⟩ := List.eq_append_cons_of_mem hspace
  unfold firstField
  rw [List.append_assoc, List.cons_append, split_append item _ hitem, split_append item _ hitem]
  rfl

/-- A blank behind a line makes no media line of it, nor ends one. -/
theorem isMedia_concat_space (x : Bytes) : IsMedia (x ++ [space]) ↔ IsMedia x := by
  -- neither key ends with a blank
  have hmedia : (ascii "m=").getLast? = some 0x3d := by decide +kernel
  have hgroup : (ascii "m=group:BUNDLE").getLast? = some 0x45 := by decide +kernel
  unfold IsMedia
  rw [infix_concat_of_ne hmedia (by decide), infix_concat_of_ne hgroup (by decide)]

/-- The two lines open the same section exactly under this condition. In a line of two fields the
character may start the third one, and in a longer line it may complete the `m=`. -/
theorem openedSection_concat_iff (x : Bytes) (c : UInt8) :
    openedSection x = openedSection (x ++ [c]) ↔ OpeningKept x c := by
  have hcount : (x ++ [c]).count space = x.count space + if c = space then 1 else 0 := by
    rw [List.count_append, List.count_singleton]
    simp
  unfold OpeningKept openedSection
  rw [hcount]
  rcases Nat.lt_or_ge (x.count space) 1 with hfew | hone
  · -- one more field does not make three
    rw [if_neg (by omega), if_neg (by split_ifs <;> omega)]
    exact iff_of_true rfl fun _ => ⟨fun h => absurd h (by omega), fun h => absurd h (by omega)⟩
  have hspace : space ∈ x := List.count_pos_iff.mp hone
  rw [firstField_concat hspace]
  by_cases hknown : sectionType ((firstField x).drop 2) = none
  · rw [hknown, ite_self, ite_self]
    exact iff_of_true rfl fun h => absurd rfl h
  simp only [ne_eq, hknown, not_false_eq_true, forall_true_left]
  rcases Nat.lt_or_ge (x.count space) 2 with htwo | hthree
  · have heq : x.count space = 1 := by omega
    rw [if_neg (by omega)]
    by_cases hc : c = space
    · subst hc
      simp only [isMedia_concat_space]
      by_cases hmedia : IsMedia x
      · simp [heq, hmedia, Ne.symm hknown]
      · simp [heq, hmedia]
    · simp [heq, hc]
  · have hmany : 2 ≤ x.count space + if c = space then 1 else 0 := by omega
    have hne : ¬ x.count space = 1 := by omega
    simp only [hthree, hmany, and_true, forall_true_left, hne, false_imp_iff]
    by_cases hmedia : IsMedia x <;> by_cases hmedia' : IsMedia (x ++ [c]) <;>
      simp [hmedia, hmedia', hknown, Ne.symm hknown]

/-! ### The transport -/

/-- The key that decides what a line says about the transport: the first of three. -/
def transportKey (line : Bytes) : Option Bytes :=
  if ascii "a=ice-ufrag" <:+: line then some (ascii "a=ice-ufrag")
  else if ascii "a=ice-pwd" <:+: line then some (ascii "a=ice-pwd")
  else if ascii "a=fingerprint" <:+: line then some (ascii "a=fingerprint")
  else none

/-- What a line says about the transport is there already. -/
structure TransportSet (td : TransportDescription) (line : Bytes) : Prop where
  iceUfrag : ascii "a=ice-ufrag" <:+: line → td.iceUfrag = getAttribute line
  icePwd : ¬ ascii "a=ice-ufrag" <:+: line → ascii "a=ice-pwd" <:+: line →
    td.icePwd = getAttribute line
  fingerprint : IsFingerprint line → ∃ item content, tokenize space [] line = [item, content] ∧
    td.identityFingerprint =
      SSLFingerprint.createUniqueFromRfc4572 ((item.drop 14).map toLower) content

/-- The last character changes nothing in the transport. It completes no key, and it is the
colon behind a user name or a password; or both lines say what is there already. -/
def TransportKept (td : TransportDescription) (x : Bytes) (c : UInt8) : Prop :=
  (transportKey x = transportKey (x ++ [c]) ∧
      (ascii "a=ice-ufrag" <:+: x ∨ ascii "a=ice-pwd" <:+: x → c = colon)) ∨
    (TransportSet td x ∧ TransportSet td (x ++ [c]))

/-- What a line says about the transport, with the reason. -/
inductive TransportReading (line : Bytes) : TransportEffect → Prop
  | iceUfrag (h : ascii "a=ice-ufrag" <:+: line) (hne : getAttribute line ≠ []) :
      TransportReading line (.iceUfrag (getAttribute line))
  | icePwd (hufrag : ¬ ascii "a=ice-ufrag" <:+: line) (h : ascii "a=ice-pwd" <:+: line)
      (hne : getAttribute line ≠ []) : TransportReading line (.icePwd (getAttribute line))
  | fingerprint (h : IsFingerprint line) {item content : Bytes} {fp : SSLFingerprint}
      (htokens : tokenize space [] line = [item, content])
      (hcreate : SSLFingerprint.createUniqueFromRfc4572 ((item.drop 14).map toLower) content
        = some fp) : TransportReading line (.fingerprint fp)
  | nothing (hufrag : ¬ ascii "a=ice-ufrag" <:+: line) (hpwd : ¬ ascii "a=ice-pwd" <:+: line)
      (hfp : ¬ ascii "a=fingerprint" <:+: line) : TransportReading line .nothing

/-- A value that has to be there is there when the line has an effect. -/
theorem nonEmpty_map_eq_ok {value : Bytes} {f : Bytes → TransportEffect} {t : TransportEffect}
    (h : (nonEmpty value).map f = .ok t) : value ≠ [] ∧ t = f value := by
  unfold nonEmpty at h
  split at h
  · cases h
  · cases h
    exact ⟨‹_›, rfl⟩

/-- What a line sets in the transport, by the conditions on its bytes. -/
theorem transportReading_of_ok {line : Bytes} {t : TransportEffect}
    (h : transportEffect line = .ok t) : TransportReading line t := by
  unfold transportEffect at h
  simp only [contains_iff] at h
  split_ifs at h with hufrag hpwd hfp
  · obtain ⟨hne, rfl⟩ := nonEmpty_map_eq_ok h
    exact .iceUfrag hufrag hne
  · obtain ⟨hne, rfl⟩ := nonEmpty_map_eq_ok h
    exact .icePwd hufrag hpwd hne
  · rcases htokens : tokenize space [] line with _ | ⟨item, _ | ⟨content, _ | _⟩⟩ <;>
      rw [htokens] at h
    case cons.cons.nil =>
      obtain ⟨alg, halg, hrest⟩ := bind_eq_ok.mp h
      obtain ⟨fp, hcreate, hpure⟩ := bind_eq_ok.mp hrest
      obtain ⟨-, rfl⟩ := substr_eq_some.mp (orElse_eq_ok.mp halg)
      cases hpure
      exact .fingerprint ⟨hufrag, hpwd, hfp⟩ htokens (orElse_eq_ok.mp hcreate)
    all_goals cases h
  · cases h
    exact .nothing hufrag hpwd hfp

/-- The key of an effect. -/
def keyOf : TransportEffect → Option Bytes
  | .nothing => none
  | .iceUfrag _ => some (ascii "a=ice-ufrag")
  | .icePwd _ => some (ascii "a=ice-pwd")
  | .fingerprint _ => some (ascii "a=fingerprint")

/-- The key of the line says which field that is. -/
theorem TransportReading.key_eq {line : Bytes} {t : TransportEffect} (h : TransportReading line t) :
    transportKey line = keyOf t := by
  unfold transportKey
  cases h with
  | iceUfrag h hne => exact if_pos h
  | icePwd hufrag h hne => rw [if_neg hufrag, if_pos h, keyOf]
  | fingerprint h htokens hcreate => rw [if_neg h.1, if_neg h.2.1, if_pos h.2.2, keyOf]
  | nothing hufrag hpwd hfp => rw [if_neg hufrag, if_neg hpwd, if_neg hfp, keyOf]

/-- A line leaves the transport as it is exactly if the transport has what the line says: the
value of its key, or the fingerprint of its fields. -/
theorem TransportReading.set_iff {line : Bytes} {t : TransportEffect} (h : TransportReading line t)
    (td : TransportDescription) : applyTransport td t = td ↔ TransportSet td line := by
  -- one case for each field that a line can set
  cases h with
  | iceUfrag h hne =>
      constructor
      · intro heq
        exact ⟨fun _ => (congrArg TransportDescription.iceUfrag heq).symm,
          fun hufrag => absurd h hufrag, fun hfp => absurd h hfp.1⟩
      · intro hset
        rw [applyTransport, ← hset.iceUfrag h]
  | icePwd hufrag h hne =>
      constructor
      · intro heq
        exact ⟨fun hufrag' => absurd hufrag' hufrag,
          fun _ _ => (congrArg TransportDescription.icePwd heq).symm,
          fun hfp => absurd h hfp.2.1⟩
      · intro hset
        rw [applyTransport, ← hset.icePwd hufrag h]
  | @fingerprint h item content fp htokens hcreate =>
      constructor
      · intro heq
        refine ⟨fun hufrag => absurd hufrag h.1, fun _ hpwd => absurd hpwd h.2.1,
          fun _ => ⟨item, content, htokens, ?_⟩⟩
        rw [hcreate]
        exact (congrArg TransportDescription.identityFingerprint heq).symm
      · intro hset
        obtain ⟨item', content', htokens', hfp⟩ := hset.fingerprint h
        rw [htokens] at htokens'
        cases htokens'
        rw [applyTransport, ← hcreate, ← hfp]
  | nothing hufrag hpwd hfp =>
      refine iff_of_true rfl ?_
      exact ⟨fun h => absurd h hufrag, fun _ h => absurd h hpwd, fun h => absurd h.2.2 hfp⟩

/-- Effects on different fields agree only if neither changes anything. -/
theorem applyTransport_eq_iff {t t' : TransportEffect} (hne : keyOf t ≠ keyOf t')
    (td : TransportDescription) : applyTransport td t = applyTransport td t' ↔
      applyTransport td t = td ∧ applyTransport td t' = td := by
  obtain ⟨mid, iceUfrag, icePwd, identityFingerprint, connectionRole⟩ := td
  constructor
  · intro heq
    cases t <;> cases t' <;> first
      | (simp only [applyTransport, TransportDescription.mk.injEq] at heq
         simp [applyTransport, heq]
         done)
      | exact absurd rfl hne
  · rintro ⟨h, h'⟩
    rw [h, h']

/-- A line with a value has one name in front of it. -/
theorem getAttribute_eq_of_ne {line : Bytes} (h : getAttribute line ≠ []) :
    ∃ name, tokenize colon [] line = [name, getAttribute line] := by
  unfold getAttribute at h ⊢
  rcases htokens : tokenize colon [] line with _ | ⟨name, _ | ⟨value, _ | _⟩⟩ <;> rw [htokens] at h
  case cons.cons.nil => exact ⟨name, rfl⟩
  all_goals exact absurd rfl h

/-- A value gets longer with its line, unless the character is a colon. -/
theorem getAttribute_concat {x : Bytes} {c : UInt8} (h : getAttribute x ≠ [])
    (h' : getAttribute (x ++ [c]) ≠ []) :
    getAttribute (x ++ [c]) = if c = colon then getAttribute x else getAttribute x ++ [c] := by
  split_ifs with hc
  · subst hc
    unfold getAttribute
    rw [tokenize_concat_self]
  · obtain ⟨name, htokens⟩ := getAttribute_eq_of_ne h
    obtain ⟨name', htokens'⟩ := getAttribute_eq_of_ne h'
    by_cases hnew : ∀ b ∈ x.getLast?, b = colon
    · -- there would be a third token
      rw [tokenize_concat_new hnew hc, htokens] at htokens'
      have hlength := congrArg List.length htokens'
      simp at hlength
    · simp only [not_forall] at hnew
      obtain ⟨b, hb, hne⟩ := hnew
      obtain ⟨front, last, hshort, -, hlong⟩ := tokenize_concat_longer hb hne hc
      rw [htokens] at hshort
      rw [htokens'] at hlong
      obtain ⟨rfl, hlast⟩ := List.append_inj' (show [name] ++ [getAttribute x] = _ from hshort) rfl
      rw [List.singleton_append, List.cons.injEq, List.cons.injEq] at hlong
      rw [hlong.2.1, (List.cons.inj hlast).1]

/-- One character more at the end keeps the value only if it is a colon: the split drops an empty
field behind it. -/
theorem getAttribute_concat_eq_iff {x : Bytes} {c : UInt8} (h : getAttribute x ≠ [])
    (h' : getAttribute (x ++ [c]) ≠ []) : getAttribute x = getAttribute (x ++ [c]) ↔ c = colon := by
  rw [getAttribute_concat h h']
  split_ifs with hc
  · simp [hc]
  · simp [hc]

/-- Behind a fingerprint there can be only a blank. With any other character behind it the digest
is refused. -/
theorem tokens_of_fingerprints {x : Bytes} {c : UInt8} {item content item' content' : Bytes}
    (h : tokenize space [] x = [item, content])
    (h' : tokenize space [] (x ++ [c]) = [item', content'])
    (hcreate : (SSLFingerprint.createUniqueFromRfc4572 ((item.drop 14).map toLower) content).isSome)
    (hcreate' : (SSLFingerprint.createUniqueFromRfc4572 ((item'.drop 14).map toLower)
      content').isSome) : item' = item ∧ content' = content := by
  by_cases hc : c = space
  · subst hc
    rw [tokenize_concat_self, h] at h'
    cases h'
    exact ⟨rfl, rfl⟩
  by_cases hnew : ∀ b ∈ x.getLast?, b = space
  · rw [tokenize_concat_new hnew hc, h] at h'
    cases h'
  -- the digest would be one character longer
  simp only [not_forall] at hnew
  obtain ⟨b, hb, hne⟩ := hnew
  obtain ⟨front, last, hshort, -, hlong⟩ := tokenize_concat_longer hb hne hc
  rw [h] at hshort
  rw [h'] at hlong
  obtain ⟨rfl, hlast⟩ := List.append_inj' (show [item] ++ [content] = _ from hshort) rfl
  cases hlast
  cases hlong
  have hsome : ∀ {algorithm fingerprint : Bytes},
      (SSLFingerprint.createUniqueFromRfc4572 algorithm fingerprint).isSome →
        (hexDecodeWithDelimiter kMaxSize fingerprint colon).isSome := by
    intro algorithm fingerprint hsome
    unfold SSLFingerprint.createUniqueFromRfc4572 at hsome
    split at hsome
    · cases hsome
    · rwa [Option.isSome_map] at hsome
  have hlonger := hsome hcreate'
  rw [hexDecodeWithDelimiter_concat (hsome hcreate)] at hlonger
  cases hlonger

/-- The two lines do the same to the transport exactly under this condition. -/
theorem transport_concat_iff {x : Bytes} {c : UInt8} {t t' : TransportEffect}
    (h : TransportReading x t) (h' : TransportReading (x ++ [c]) t') (td : TransportDescription) :
    applyTransport td t = applyTransport td t' ↔ TransportKept td x c := by
  unfold TransportKept
  rw [h.key_eq, h'.key_eq, ← h.set_iff td, ← h'.set_iff td]
  -- different keys set different fields, and agree only where both say what is there
  by_cases hkey : keyOf t = keyOf t'
  case neg =>
    rw [applyTransport_eq_iff hkey]
    simp [hkey]
  have hboth : applyTransport td t = td ∧ applyTransport td t' = td →
      applyTransport td t = applyTransport td t' := fun hset => hset.1.trans hset.2.symm
  simp only [hkey, true_and]
  -- with one key the values are compared: one character more is the same value only for a colon
  cases h with
  | iceUfrag h hne =>
      cases h' with
      | iceUfrag h'' hne' =>
          have hvalue : applyTransport td (.iceUfrag (getAttribute x)) =
              applyTransport td (.iceUfrag (getAttribute (x ++ [c]))) ↔ c = colon := by
            rw [← getAttribute_concat_eq_iff hne hne']
            simp [applyTransport]
          simp only [h, true_or, forall_true_left]
          exact ⟨fun heq => .inl (hvalue.mp heq), fun hor => hor.elim hvalue.mpr hboth⟩
      | icePwd => simp [keyOf, ascii] at hkey
      | fingerprint => simp [keyOf, ascii] at hkey
      | nothing => simp [keyOf] at hkey
  | icePwd hufrag h hne =>
      cases h' with
      | icePwd hufrag' h'' hne' =>
          have hvalue : applyTransport td (.icePwd (getAttribute x)) =
              applyTransport td (.icePwd (getAttribute (x ++ [c]))) ↔ c = colon := by
            rw [← getAttribute_concat_eq_iff hne hne']
            simp [applyTransport]
          simp only [h, or_true, forall_true_left]
          exact ⟨fun heq => .inl (hvalue.mp heq), fun hor => hor.elim hvalue.mpr hboth⟩
      | iceUfrag => simp [keyOf, ascii] at hkey
      | fingerprint => simp [keyOf, ascii] at hkey
      | nothing => simp [keyOf] at hkey
  | fingerprint h htokens hcreate =>
      cases h' with
      | fingerprint h'' htokens' hcreate' =>
          obtain ⟨rfl, rfl⟩ := tokens_of_fingerprints htokens htokens'
            (by rw [hcreate]; rfl) (by rw [hcreate']; rfl)
          rw [hcreate] at hcreate'
          cases hcreate'
          exact iff_of_true rfl (.inl fun hor => (hor.elim h.1 h.2.1).elim)
      | iceUfrag => simp [keyOf, ascii] at hkey
      | icePwd => simp [keyOf, ascii] at hkey
      | nothing => simp [keyOf] at hkey
  | nothing hufrag hpwd hfp =>
      cases h' with
      | nothing => exact iff_of_true rfl (.inl fun hor => (hor.elim hufrag hpwd).elim)
      | iceUfrag => simp [keyOf] at hkey
      | icePwd => simp [keyOf] at hkey
      | fingerprint => simp [keyOf] at hkey

end Xrtc.Proofs.Pc
