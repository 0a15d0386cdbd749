import Xrtc.Proofs.Pc.LastLine
import Xrtc.Proofs.Sdk.OfferLines

/-!
# `Xrtc.Proofs.Sdk.LastOfferLine`: the last line of an offer with one character more

`KeptInSdk` is the condition under which `SetRemoteSDP` does the same with a last line `x` and
with `x ++ [c]`, as `Xrtc.Proofs.Pc.KeptInServer` is for `set_remote_sdp`. The SDK takes lines
apart with `tokenize`, which leaves out empty fields, so a blank at the end of a group or an
`m=` line changes nothing. It looks at the first character for an `m=` line, and at candidates
in place of ssrcs. `offerOutcome_concat_iff` says that the condition is exact.
-/

set_option autoImplicit false

namespace Xrtc.Proofs.Sdk

open Xrtc.Base
open Xrtc.Lib
open Xrtc.Ice (ascii colon)
open Xrtc.Pc (MediaType ContentGroup Failure getAttribute)
open Xrtc.Sdk
open Xrtc.Proofs.Base
open Xrtc.Proofs.Pc

/-! ### What makes a line accepted -/

/-- A line that is taken as an `m=` line: it begins with one of the two characters. -/
def IsOfferMedia (line : Bytes) : Prop :=
  ¬ ascii "a=group:BUNDLE" <:+: line ∧ ∃ b ∈ line.head?, b ∈ ascii "m="

instance (line : Bytes) : Decidable (IsOfferMedia line) := inferInstanceAs (Decidable (_ ∧ _))

/-- The first field of a line that is not empty. -/
def firstToken (line : Bytes) : Bytes := (tokenize space [] line).headD []

/-- An `m=` line has three fields. -/
def OfferMediaAccepted (line : Bytes) : Prop :=
  IsOfferMedia line → 3 ≤ (tokenize space [] line).length

/-- The first of its fields has two characters in front of the media type. -/
def OfferMediaSafe (line : Bytes) : Prop :=
  IsOfferMedia line → 3 ≤ (tokenize space [] line).length → 2 ≤ (firstToken line).length

/-- The media type after a line. -/
def midAfter (mid line : Bytes) : Bytes :=
  if IsOfferMedia line then (firstToken line).drop 2 else mid

/-- A candidate has eight fields, and a user name or a password has the form `name:value`. -/
def OfferSectionAccepted (line : Bytes) : Prop :=
  (ascii "a=candidate:" <:+: line → 8 ≤ (tokenize space [] (getAttribute line)).length) ∧
    (ascii "a=ice-ufrag" <:+: line ∨ ascii "a=ice-pwd" <:+: line → getAttribute line ≠ [])

/-- A line is accepted behind an `m=` line of a media type. -/
def OfferLineAccepted (mid line : Bytes) : Prop :=
  OfferMediaAccepted line ∧ OfferMediaSafe line ∧
    ((sectionType (midAfter mid line)).isSome → OfferSectionAccepted line)

/-! ### The names of a group -/

/-- The last character changes no group: it is a blank, or a name that the group has anyway, or
it makes a name longer that stands before in both forms. -/
def OfferBundleKept (x : Bytes) (c : UInt8) : Prop :=
  ascii "a=group:BUNDLE" <:+: x ++ [c] →
    if ascii "a=group:BUNDLE" <:+: x then
      c = space ∨
        if x.getLast? = some space then [c] ∈ (tokenize space [] x).tail
        else (tokenize space [] x).tail = [] ∨ LastNameKept (tokenize space [] x).tail c
    else (tokenize space [] x).length ≤ 1

/-- The group of a line. -/
def offerBundleOf (line : Bytes) : Option ContentGroup :=
  if ascii "a=group:BUNDLE" <:+: line ∧ (tokenize space [] line).tail ≠ [] then
    some ⟨ascii "BUNDLE", firsts (tokenize space [] line).tail⟩
  else none

/-- The tokens of a line that is not empty, with a character behind it that is no blank. -/
theorem tokens_concat {x : Bytes} {c : UInt8} (hx : x ≠ []) (hc : c ≠ space) :
    (x.getLast? = some space ∧ tokenize space [] (x ++ [c]) = tokenize space [] x ++ [[c]]) ∨
      (x.getLast? ≠ some space ∧ ∃ front last, tokenize space [] x = front ++ [last] ∧
        tokenize space [] (x ++ [c]) = front ++ [last ++ [c]]) := by
  obtain ⟨b, hb⟩ := Option.isSome_iff_exists.mp (List.getLast?_isSome.mpr hx)
  by_cases hspace : b = space
  · subst hspace
    refine .inl ⟨hb, tokenize_concat_new ?_ hc⟩
    intro b hb'
    rw [hb] at hb'
    exact (Option.some.inj hb').symm
  · obtain ⟨front, last, hshort, -, hlong⟩ := tokenize_concat_longer hb hspace hc
    refine .inr ⟨?_, front, last, hshort, hlong⟩
    rw [hb]
    exact fun h => hspace (Option.some.inj h)

/-- The two lines add the same group exactly under this condition. The names are what `tokenize`
finds, so a blank more changes none of them. -/
theorem offerBundleOf_concat_iff (x : Bytes) (c : UInt8) :
    offerBundleOf x = offerBundleOf (x ++ [c]) ↔ OfferBundleKept x c := by
  unfold OfferBundleKept offerBundleOf
  by_cases hlong : ascii "a=group:BUNDLE" <:+: x ++ [c]
  case neg =>
    have hshort : ¬ ascii "a=group:BUNDLE" <:+: x := fun h => hlong (infix_concat_of_within h c)
    rw [if_neg (fun h => hshort h.1), if_neg (fun h => hlong h.1)]
    exact iff_of_true rfl fun h => absurd h hlong
  by_cases hc : c = space
  · -- a blank is no part of the key, nor of a name
    subst hc
    have hshort : ascii "a=group:BUNDLE" <:+: x :=
      (infix_concat_of_ne (d := 0x45) (by decide +kernel) (by decide)).mp hlong
    simp only [hlong, hshort, tokenize_concat_self]
    simp
  have hx : x ≠ [] := by
    rintro rfl
    have hle := hlong.length_le
    have hkey : (ascii "a=group:BUNDLE").length = 14 := by decide +kernel
    simp [hkey] at hle
  by_cases hshort : ascii "a=group:BUNDLE" <:+: x
  · simp only [hlong, hshort, true_and, forall_true_left, if_true, hc, false_or]
    have hne : tokenize space [] x ≠ [] :=
      tokenize_ne_nil (hshort.subset (show (0x61 : UInt8) ∈ _ by decide +kernel)) (by decide)
    obtain ⟨item, names, hitem⟩ := List.exists_cons_of_ne_nil hne
    rcases tokens_concat hx hc with ⟨hlast, hnew⟩ | ⟨hlast, front, last, htokens, hnew⟩
    · rw [if_pos hlast, hnew, hitem]
      simp only [List.cons_append, List.tail_cons]
      by_cases hnames : names = []
      · simp [hnames]
      · simp [hnames, eq_comm (a := firsts names), firsts_concat_eq_iff]
    · rw [if_neg hlast, hnew, htokens]
      cases front with
      | nil => simp
      | cons first earlier => simp [lastNameKept_iff]
  · -- the character completes the key, so it is not behind a blank
    simp only [hlong, hshort, true_and, false_and, forall_true_left, if_false]
    have hlast : x.getLast? ≠ some space := by
      have hkey : ascii "a=group:BUNDLE" = ascii "a=group:BUNDL" ++ [0x45] := by decide +kernel
      have hend : (ascii "a=group:BUNDL").getLast? = some 0x4c := by decide +kernel
      rw [hkey] at hlong hshort
      obtain ⟨rest, rfl⟩ := suffix_of_completed hlong hshort
      rw [List.getLast?_append, hend]
      simp [space]
    rcases tokens_concat hx hc with ⟨hspace, -⟩ | ⟨-, front, last, htokens, hnew⟩
    · exact absurd hspace hlast
    rw [htokens, hnew]
    cases front with
    | nil => simp
    | cons first earlier => simp

/-! ### The section of an `m=` line -/

/-- The last character changes no section: it does not start the third field of an `m=` line,
and in a longer line it completes no key. -/
def OfferOpeningKept (x : Bytes) (c : UInt8) : Prop :=
  sectionType ((firstToken x).drop 2) ≠ none →
    (3 ≤ (tokenize space [] x).length → (IsOfferMedia x ↔ IsOfferMedia (x ++ [c]))) ∧
      ((tokenize space [] x).length = 2 → x.getLast? = some space → c ≠ space →
        ¬ IsOfferMedia (x ++ [c]))

/-- The section that a line opens. -/
def openedOffer (line : Bytes) : Option MediaType :=
  if IsOfferMedia line ∧ 3 ≤ (tokenize space [] line).length then
    sectionType ((firstToken line).drop 2)
  else none

/-- A line with two tokens keeps the first one. -/
theorem firstToken_concat {x : Bytes} (h : 2 ≤ (tokenize space [] x).length) (c : UInt8) :
    firstToken (x ++ [c]) = firstToken x := by
  unfold firstToken
  by_cases hc : c = space
  · rw [hc, tokenize_concat_self]
  have hx : x ≠ [] := by
    rintro rfl
    simp [tokenize] at h
  rcases tokens_concat hx hc with ⟨-, hnew⟩ | ⟨-, front, last, htokens, hnew⟩
  · rw [hnew]
    cases htokens : tokenize space [] x with
    | nil => simp [htokens] at h
    | cons first rest => rfl
  · rw [htokens] at h
    rw [hnew, htokens]
    cases front with
    | nil => simp at h
    | cons first rest => rfl

/-- How many tokens the longer line has. -/
theorem length_tokens_concat (x : Bytes) (c : UInt8) :
    (tokenize space [] (x ++ [c])).length = (tokenize space [] x).length ∨
      ((x = [] ∨ x.getLast? = some space) ∧ c ≠ space ∧
        (tokenize space [] (x ++ [c])).length = (tokenize space [] x).length + 1) := by
  by_cases hc : c = space
  · rw [hc, tokenize_concat_self]
    exact .inl rfl
  by_cases hx : x = []
  · subst hx
    refine .inr ⟨.inl rfl, hc, ?_⟩
    rw [List.nil_append, tokenize_of_not_mem (by simpa using Ne.symm hc) (by simp)]
    rfl
  rcases tokens_concat hx hc with ⟨hlast, hnew⟩ | ⟨-, front, last, htokens, hnew⟩
  · exact .inr ⟨.inr hlast, hc, by simp [hnew]⟩
  · exact .inl (by simp [hnew, htokens])

/-- The two lines open the same section exactly under this condition. Behind a blank the character
may start the third field of an `m=` line. -/
theorem openedOffer_concat_iff (x : Bytes) (c : UInt8) :
    openedOffer x = openedOffer (x ++ [c]) ↔ OfferOpeningKept x c := by
  unfold OfferOpeningKept openedOffer
  have hlength := length_tokens_concat x c
  rcases Nat.lt_or_ge (tokenize space [] x).length 2 with hfew | htwo
  · -- one token more does not make three
    rw [if_neg (by omega), if_neg (by omega)]
    exact iff_of_true rfl fun _ => ⟨fun h => absurd h (by omega), fun h => absurd h (by omega)⟩
  rw [firstToken_concat htwo]
  by_cases hknown : sectionType ((firstToken x).drop 2) = none
  · rw [hknown, ite_self, ite_self]
    exact iff_of_true rfl fun h => absurd rfl h
  simp only [ne_eq, hknown, not_false_eq_true, forall_true_left]
  rcases Nat.lt_or_ge (tokenize space [] x).length 3 with hthree | hmany
  · have heq : (tokenize space [] x).length = 2 := by omega
    have hx : x ≠ [] := by
      rintro rfl
      simp [tokenize] at heq
    rw [if_neg (by omega)]
    by_cases hnew : x.getLast? = some space ∧ c ≠ space
    · have hlong : 3 ≤ (tokenize space [] (x ++ [c])).length := by
        rcases tokens_concat hx hnew.2 with ⟨-, htokens⟩ | ⟨hlast, -⟩
        · simp [htokens, heq]
        · exact absurd hnew.1 hlast
      by_cases hmedia : IsOfferMedia (x ++ [c])
      · simp [heq, hmedia, hlong, hnew.1, hnew.2, Ne.symm hknown]
      · simp [heq, hmedia]
    · have hshort : ¬ 3 ≤ (tokenize space [] (x ++ [c])).length := by
        rcases hlength with hsame | ⟨hor, hc, -⟩
        · omega
        · exact absurd ⟨hor.resolve_left hx, hc⟩ hnew
      rw [if_neg (fun h => hshort h.2)]
      refine iff_of_true rfl ⟨fun h => absurd h (by omega), fun _ hlast hc => ?_⟩
      exact absurd ⟨hlast, hc⟩ hnew
  · have hlong : 3 ≤ (tokenize space [] (x ++ [c])).length := by omega
    have hne : ¬ (tokenize space [] x).length = 2 := by omega
    simp only [hmany, hlong, and_true, forall_true_left, hne, false_imp_iff]
    by_cases hmedia : IsOfferMedia x <;> by_cases hmedia' : IsOfferMedia (x ++ [c]) <;>
      simp [hmedia, hmedia', hknown, Ne.symm hknown]

/-! ### Candidates -/

/-- The last character changes no candidate. It does not complete the key; and it is skipped,
or it comes behind the eight fields that are read. -/
def CandidateKept (x : Bytes) (c : UInt8) : Prop :=
  ascii "a=candidate:" <:+: x ++ [c] → ascii "a=candidate:" <:+: x ∧
    (c = colon ∨ c = space ∨ (getAttribute x).getLast? = some space ∨
      8 < (tokenize space [] (getAttribute x)).length)

section Candidates

variable (pton6 : Bytes → Option (Vector UInt8 16))

/-- The candidate of the fields of a line. -/
def candidateOf (fields : List Bytes) : List Candidate :=
  match fields with
  | foundation :: component :: protocol :: priority :: ip :: port :: _ :: type :: _ =>
      [{ foundation
         component := atoi component
         protocol
         priority := UInt32.ofInt (atoi priority)
         port := atoi port
         address := .ofHostname pton6 ip (atoi port)
         type }]
  | _ => []

/-- The candidates of a line, with the reason. -/
inductive CandidateReading (line : Bytes) : List Candidate → Prop
  | candidate (hkey : ascii "a=candidate:" <:+: line) (hne : getAttribute line ≠ [])
      (hfields : 8 ≤ (tokenize space [] (getAttribute line)).length) :
      CandidateReading line (candidateOf pton6 (tokenize space [] (getAttribute line)))
  | nothing (hkey : ¬ ascii "a=candidate:" <:+: line) : CandidateReading line []

/-- What a line gives for the candidates, by the conditions on its bytes. -/
theorem candidateReading_of_some {line : Bytes} {candidates : List Candidate}
    (h : parseCandidates pton6 line = some candidates) :
    CandidateReading pton6 line candidates := by
  unfold parseCandidates at h
  split at h
  · rename_i hkey
    dsimp only at h
    split at h
    · cases h
    rename_i hne
    split at h
    · rename_i hfields
      cases h
      have hread := @CandidateReading.candidate pton6 _ (contains_iff.mp hkey) hne
        (by rw [hfields]; simp)
      rw [hfields] at hread
      exact hread
    · cases h
  · rename_i hkey
    cases h
    exact .nothing fun hinfix => hkey (contains_iff.mpr hinfix)

/-- A candidate line fails exactly when it has fewer than eight fields. -/
theorem parseCandidates_eq_none_iff (line : Bytes) : parseCandidates pton6 line = none ↔
    ¬ (ascii "a=candidate:" <:+: line → 8 ≤ (tokenize space [] (getAttribute line)).length) := by
  unfold parseCandidates
  by_cases hkey : ascii "a=candidate:" <:+: line
  · rw [if_pos (contains_iff.mpr hkey)]
    simp only [hkey, forall_true_left]
    by_cases hne : getAttribute line = []
    · rw [if_pos hne, hne]
      simp [tokenize]
    · rw [if_neg hne]
      rcases tokenize space [] (getAttribute line) with _ | ⟨_, _ | ⟨_, _ | ⟨_, _ | ⟨_, _ | ⟨_, _ | ⟨_,
        _ | ⟨_, _ | ⟨_, _⟩⟩⟩⟩⟩⟩⟩⟩ <;> simp
  · rw [if_neg (fun hc => hkey (contains_iff.mp hc))]
    simp [hkey]

/-- Fields behind the eighth do not matter. -/
theorem candidateOf_append {fields : List Bytes} (h : 8 ≤ fields.length) (more : List Bytes) :
    candidateOf pton6 (fields ++ more) = candidateOf pton6 fields := by
  rcases fields with _ | ⟨_, _ | ⟨_, _ | ⟨_, _ | ⟨_, _ | ⟨_, _ | ⟨_, _ | ⟨_, _ | ⟨_, _⟩⟩⟩⟩⟩⟩⟩⟩
  case cons.cons.cons.cons.cons.cons.cons.cons => rfl
  all_goals
    simp only [List.length_cons, List.length_nil] at h
    omega

/-- The eighth field is the type. -/
theorem candidateOf_last_ne {front : List Bytes} (h : front.length = 7) {last last' : Bytes}
    (hne : last ≠ last') :
    candidateOf pton6 (front ++ [last]) ≠ candidateOf pton6 (front ++ [last']) := by
  rcases front with _ | ⟨_, _ | ⟨_, _ | ⟨_, _ | ⟨_, _ | ⟨_, _ | ⟨_, _ | ⟨_, _ | _⟩⟩⟩⟩⟩⟩⟩
  case cons.cons.cons.cons.cons.cons.cons.nil =>
    simp [candidateOf, hne]
  all_goals
    simp only [List.length_cons, List.length_nil] at h
    omega

/-- Eight fields give a candidate. -/
theorem candidateOf_ne_nil {fields : List Bytes} (h : 8 ≤ fields.length) :
    candidateOf pton6 fields ≠ [] := by
  rcases fields with _ | ⟨_, _ | ⟨_, _ | ⟨_, _ | ⟨_, _ | ⟨_, _ | ⟨_, _ | ⟨_, _ | ⟨_, _⟩⟩⟩⟩⟩⟩⟩⟩
  case cons.cons.cons.cons.cons.cons.cons.cons => simp [candidateOf]
  all_goals
    simp only [List.length_cons, List.length_nil] at h
    omega

/-- The two lines add the same candidate exactly under this condition. Eight fields are read, so
what comes behind them does not count. -/
theorem candidate_concat_iff {x : Bytes} {c : UInt8} {candidates candidates' : List Candidate}
    (h : CandidateReading pton6 x candidates) (h' : CandidateReading pton6 (x ++ [c]) candidates') :
    candidates = candidates' ↔ CandidateKept x c := by
  unfold CandidateKept
  cases h with
  | nothing hkey =>
      cases h' with
      | nothing hkey' => exact iff_of_true rfl fun h => absurd h hkey'
      | candidate hkey' hne' hfields' =>
          refine iff_of_false (candidateOf_ne_nil pton6 hfields').symm ?_
          exact fun hkept => hkey (hkept hkey').1
  | candidate hkey hne hfields =>
      have hkey'' := infix_concat_of_within hkey c
      cases h' with
      | nothing hkey' => exact absurd hkey'' hkey'
      | candidate hkey' hne' hfields' =>
          simp only [hkey, hkey'', true_and, forall_true_left]
          -- both lines add a candidate: the character is skipped, begins a new field, or belongs to
          -- the last one
          rw [getAttribute_concat hne hne']
          by_cases hcolon : c = colon
          · simp [hcolon]
          rw [if_neg hcolon]
          by_cases hspace : c = space
          · rw [hspace, tokenize_concat_self]
            simp
          rcases tokens_concat hne hspace with ⟨hlast, hnew⟩ | ⟨hlast, front, last, htokens, hnew⟩
          -- a new field is behind the eight that are read
          · rw [hnew, candidateOf_append pton6 hfields]
            simp [hlast]
          · rw [htokens, List.length_append, List.length_singleton] at hfields
            rw [hnew, htokens, List.length_append, List.length_singleton]
            simp only [hcolon, hspace, hlast, false_or]
            -- the last field is read only if it is the eighth
            by_cases height : front.length = 7
            · refine iff_of_false (candidateOf_last_ne pton6 height (by simp)) (by omega)
            · have hfront : 8 ≤ front.length := by omega
              rw [candidateOf_append pton6 hfront, candidateOf_append pton6 hfront]
              exact iff_of_true rfl (by omega)

end Candidates

/-! ### The transport -/

/-- The key that decides what a line says about the transport. -/
def offerTransportKey (line : Bytes) : Option Bytes :=
  if ascii "a=ice-ufrag" <:+: line then some (ascii "a=ice-ufrag")
  else if ascii "a=ice-pwd" <:+: line then some (ascii "a=ice-pwd")
  else none

/-- What a line says about the transport is there already. -/
structure OfferTransportSet (td : TransportDescription) (line : Bytes) : Prop where
  iceUfrag : ascii "a=ice-ufrag" <:+: line → td.iceUfrag = getAttribute line
  icePwd : ¬ ascii "a=ice-ufrag" <:+: line → ascii "a=ice-pwd" <:+: line →
    td.icePwd = getAttribute line

/-- The last character changes nothing in the transport. It completes no key, and it is the
colon behind a user name or a password; or both lines say what is there already. -/
def OfferTransportKept (td : TransportDescription) (x : Bytes) (c : UInt8) : Prop :=
  (offerTransportKey x = offerTransportKey (x ++ [c]) ∧
      (ascii "a=ice-ufrag" <:+: x ∨ ascii "a=ice-pwd" <:+: x → c = colon)) ∨
    (OfferTransportSet td x ∧ OfferTransportSet td (x ++ [c]))

/-- What a line makes of the transport, with the reason. -/
inductive OfferTransportReading (td : TransportDescription) (line : Bytes) :
    TransportDescription → Prop
  | iceUfrag (h : ascii "a=ice-ufrag" <:+: line) (hne : getAttribute line ≠ []) :
      OfferTransportReading td line { td with iceUfrag := getAttribute line }
  | icePwd (hufrag : ¬ ascii "a=ice-ufrag" <:+: line) (h : ascii "a=ice-pwd" <:+: line)
      (hne : getAttribute line ≠ []) :
      OfferTransportReading td line { td with icePwd := getAttribute line }
  | nothing (hufrag : ¬ ascii "a=ice-ufrag" <:+: line) (hpwd : ¬ ascii "a=ice-pwd" <:+: line) :
      OfferTransportReading td line td

/-- What a line sets in the transport, by the conditions on its bytes. -/
theorem offerTransportReading_of_some {td td' : TransportDescription} {line : Bytes}
    (h : parseTransportInfo td line = some td') : OfferTransportReading td line td' := by
  unfold parseTransportInfo at h
  simp only [contains_iff] at h
  split_ifs at h with hufrag hne hpwd hne
  · cases h
    exact .iceUfrag hufrag hne
  · cases h
    exact .icePwd hufrag hpwd hne
  · cases h
    exact .nothing hufrag hpwd

/-- A line of the user name or the password fails exactly when it has no value. -/
theorem parseTransportInfo_eq_none_iff (td : TransportDescription) (line : Bytes) :
    parseTransportInfo td line = none ↔
      ¬ (ascii "a=ice-ufrag" <:+: line ∨ ascii "a=ice-pwd" <:+: line → getAttribute line ≠ []) := by
  unfold parseTransportInfo
  simp only [contains_iff]
  split_ifs with hufrag hne hpwd hne <;> simp_all

/-- The two lines do the same to the transport exactly under this condition. -/
theorem offerTransport_concat_iff {td t t' : TransportDescription} {x : Bytes} {c : UInt8}
    (h : OfferTransportReading td x t) (h' : OfferTransportReading td (x ++ [c]) t') :
    t = t' ↔ OfferTransportKept td x c := by
  have hset : ∀ line : Bytes, OfferTransportSet td line ↔
      (ascii "a=ice-ufrag" <:+: line → td.iceUfrag = getAttribute line) ∧
        (¬ ascii "a=ice-ufrag" <:+: line → ascii "a=ice-pwd" <:+: line →
          td.icePwd = getAttribute line) :=
    fun line => ⟨fun h => ⟨h.1, h.2⟩, fun h => ⟨h.1, h.2⟩⟩
  have hkeys : ascii "a=ice-ufrag" ≠ ascii "a=ice-pwd" := by simp [ascii]
  obtain ⟨mid, iceUfrag, icePwd⟩ := td
  unfold OfferTransportKept offerTransportKey
  rw [hset, hset]
  -- the key a line has by itself it has with one character more, but not the other way round
  cases h with
  | iceUfrag h hne =>
      have hlong := infix_concat_of_within h c
      cases h' with
      | iceUfrag h'' hne' =>
          have hvalue := getAttribute_concat_eq_iff hne hne'
          simp only [h, hlong, true_or, forall_true_left, if_true, true_and, not_true_eq_false,
            false_imp_iff, and_true, TransportDescription.mk.injEq, ← hvalue]
          constructor
          · exact fun heq => .inl heq
          · exact fun hor => hor.elim id fun hboth => hboth.1.symm.trans hboth.2
      | icePwd hufrag' => exact absurd hlong hufrag'
      | nothing hufrag' => exact absurd hlong hufrag'
  | icePwd hufrag h hne =>
      have hlong := infix_concat_of_within h c
      cases h' with
      | iceUfrag h'' hne' =>
          simp [hufrag, h, h'', Ne.symm hkeys, eq_comm, and_comm]
      | icePwd hufrag' h'' hne' =>
          have hvalue := getAttribute_concat_eq_iff hne hne'
          simp only [h, hlong, hufrag, hufrag', or_true, forall_true_left, if_true, if_false,
            true_and, not_false_eq_true, false_imp_iff, TransportDescription.mk.injEq, ← hvalue]
          constructor
          · exact fun heq => .inl heq
          · exact fun hor => hor.elim id fun hboth => hboth.1.symm.trans hboth.2
      | nothing hufrag' hpwd' => exact absurd hlong hpwd'
  | nothing hufrag hpwd =>
      cases h' with
      | iceUfrag h'' hne' => simp [hufrag, hpwd, h'']
      | icePwd hufrag' h'' hne' => simp [hufrag, hpwd, hufrag', h'']
      | nothing hufrag' hpwd' => simp [hufrag, hpwd, hufrag', hpwd']

/-- The name of the section is no matter of the transport lines. -/
theorem offerTransportKept_mid (td : TransportDescription) (mid x : Bytes) (c : UInt8) :
    OfferTransportKept { td with mid } x c ↔ OfferTransportKept td x c := by
  have hset : ∀ line : Bytes,
      OfferTransportSet { td with mid } line ↔ OfferTransportSet td line :=
    fun line => ⟨fun h => ⟨h.1, h.2⟩, fun h => ⟨h.1, h.2⟩⟩
  unfold OfferTransportKept
  rw [hset x, hset (x ++ [c])]

/-! ### The condition -/

/-- The last character of the last line changes nothing:

- `thrown`: an exception leaves the parser with both lines;
- `rejected`: both lines are rejected, and they give the same group and open the same section;
- `accepted`: both are accepted, and they say the same in their section, too. -/
inductive KeptInSdk (s : RemoteOffer) (x : Bytes) (c : UInt8) : Prop
  | thrown (h : ¬ OfferMediaSafe x) (h' : ¬ OfferMediaSafe (x ++ [c]))
  | rejected (hsafe : OfferMediaSafe x) (hsafe' : OfferMediaSafe (x ++ [c]))
      (h : ¬ OfferLineAccepted s.mid x) (h' : ¬ OfferLineAccepted s.mid (x ++ [c]))
      (hbundle : OfferBundleKept x c) (hopening : OfferOpeningKept x c)
  | accepted (h : OfferLineAccepted s.mid x) (h' : OfferLineAccepted s.mid (x ++ [c]))
      (hbundle : OfferBundleKept x c) (hopening : OfferOpeningKept x c)
      (hsection : ∀ type, sectionType (midAfter s.mid x) = some type →
        CandidateKept x c ∧ OfferTransportKept (offerSection s type).td x c)

/-! ### One line -/

/-- The local objects after the first part of the loop body. -/
def afterOfferMedia (s : RemoteOffer) (line : Bytes) : RemoteOffer :=
  if IsOfferMedia line then s.enter ((firstToken line).drop 2)
  else { s with contentGroups := s.contentGroups ++ (offerBundleOf line).toList }

/-- A line that is no `m=` line adds its group. -/
theorem parseMediaLine_of_not_isOfferMedia {line : Bytes} (h : ¬ IsOfferMedia line)
    (s : RemoteOffer) : s.parseMediaLine line = .ok (afterOfferMedia s line) := by
  unfold RemoteOffer.parseMediaLine afterOfferMedia offerBundleOf
  rw [if_neg h]
  by_cases hgroup : ascii "a=group:BUNDLE" <:+: line
  · rw [if_pos (contains_iff.mpr hgroup)]
    rcases hfields : tokenize space [] line with _ | ⟨item, _ | ⟨name, names⟩⟩
    · simp
    · simp
    · simp only [← foldl_addContentName_firsts, hgroup, List.tail_cons]
      rfl
  · have hhead : ¬ ∃ b ∈ line.head?, b ∈ ascii "m=" := fun hhead => h ⟨hgroup, hhead⟩
    rw [if_neg (fun hc => hgroup (contains_iff.mp hc)), if_neg hhead, if_neg (fun hg => hgroup hg.1)]
    simp

/-- An `m=` line needs its fields. -/
theorem parseMediaLine_of_isOfferMedia {line : Bytes} (h : IsOfferMedia line) (s : RemoteOffer) :
    s.parseMediaLine line =
      if (tokenize space [] line).length < 3 then .error .rejected
      else if (firstToken line).length < 2 then .error .outOfRange
      else .ok (afterOfferMedia s line) := by
  unfold RemoteOffer.parseMediaLine afterOfferMedia firstToken
  rw [if_neg (fun hc => h.1 (contains_iff.mp hc)), if_pos h.2, if_pos h]
  rcases hfields : tokenize space [] line with _ | ⟨item, _ | ⟨second, _ | ⟨third, rest⟩⟩⟩
  case cons.cons.cons =>
    have hfields : ¬ (item :: second :: third :: rest).length < 3 := by simp
    rw [if_neg hfields]
    unfold substr
    by_cases hshort : item.length < 2
    · simp [hshort]
    · simp [hshort]
  all_goals rfl

/-- How the first part of the loop body ends. -/
theorem parseMediaLine_offer_cases (s : RemoteOffer) (line : Bytes) :
    (OfferMediaAccepted line ∧ OfferMediaSafe line ∧
        s.parseMediaLine line = .ok (afterOfferMedia s line)) ∨
      (OfferMediaAccepted line ∧ ¬ OfferMediaSafe line ∧
        s.parseMediaLine line = .error .outOfRange) ∨
      (¬ OfferMediaAccepted line ∧ OfferMediaSafe line ∧
        s.parseMediaLine line = .error .rejected) := by
  unfold OfferMediaAccepted OfferMediaSafe
  by_cases h : IsOfferMedia line
  · rw [parseMediaLine_of_isOfferMedia h]
    simp only [h, forall_true_left]
    split_ifs with hfew hshort
    · exact .inr (.inr ⟨by omega, fun h => absurd h (by omega), rfl⟩)
    · exact .inr (.inl ⟨by omega, fun h => absurd (h (by omega)) (by omega), rfl⟩)
    · exact .inl ⟨by omega, fun _ => by omega, rfl⟩
  · exact .inl ⟨fun hm => absurd hm h, fun hm => absurd hm h, parseMediaLine_of_not_isOfferMedia h s⟩

/-- A section that is entered. -/
theorem offerEnter_cases (s : RemoteOffer) (mid : Bytes) : s.enter mid =
    match sectionType mid with
    | none => { s with mid }
    | some type =>
        setOfferSection { s with mid, contents := s.contents ++ [type] } type
          { offerSection s type with td := { (offerSection s type).td with mid } } := by
  unfold RemoteOffer.enter sectionType
  dsimp only
  by_cases haudio : mid = ascii "audio"
  · rw [if_pos haudio, if_pos haudio.symm]
    rfl
  · rw [if_neg haudio, if_neg (Ne.symm haudio)]
    by_cases hvideo : mid = ascii "video"
    · rw [if_pos hvideo, if_pos hvideo.symm]
      rfl
    · rw [if_neg hvideo, if_neg (Ne.symm hvideo)]

/-- What the first part of the loop body changes. -/
theorem afterOfferMedia_spec {line : Bytes} (h : OfferMediaAccepted line) (s : RemoteOffer) :
    (afterOfferMedia s line).contents = s.contents ++ (openedOffer line).toList ∧
      (afterOfferMedia s line).contentGroups = s.contentGroups ++ (offerBundleOf line).toList ∧
      (afterOfferMedia s line).mid = midAfter s.mid line ∧
      ∀ type, (offerSection (afterOfferMedia s line) type).candidates =
          (offerSection s type).candidates ∧
        ∃ mid, (offerSection (afterOfferMedia s line) type).td =
          { (offerSection s type).td with mid } := by
  unfold afterOfferMedia midAfter openedOffer
  by_cases hmedia : IsOfferMedia line
  · have hnone : offerBundleOf line = none := if_neg fun hg => hmedia.1 hg.1
    rw [if_pos hmedia, if_pos hmedia, if_pos ⟨hmedia, h hmedia⟩, hnone, offerEnter_cases]
    cases hknown : sectionType ((firstToken line).drop 2) with
    | none =>
        refine ⟨(List.append_nil _).symm, (List.append_nil _).symm, rfl, fun type => ?_⟩
        cases type <;> exact ⟨rfl, _, rfl⟩
    | some type =>
        refine ⟨by simp, by simp, by simp, fun type' => ?_⟩
        cases type <;> cases type' <;> exact ⟨rfl, _, rfl⟩
  · rw [if_neg hmedia, if_neg hmedia, if_neg (fun h => hmedia h.1)]
    refine ⟨(List.append_nil _).symm, rfl, rfl, fun type => ?_⟩
    cases type <;> exact ⟨rfl, _, rfl⟩

section Line

variable (pton6 : Bytes → Option (Vector UInt8 16))

/-- What the loop and what is behind it make of lines, from the local objects that it has: a
return value and a description, unless an exception leaves it. -/
def offerOutcome (s : RemoteOffer) (lines : List Bytes) : Option (Int × SessionDescription) :=
  match s.parseLines pton6 lines with
  | .error (.outOfRange, _) => none
  | .error (.rejected, s) => some (-1, s.partialDescription)
  | .ok s => some (0, s.description)

/-- The calls for an accepted line in a section. -/
theorem offerParseLine_of_accepted {line : Bytes} (h : OfferSectionAccepted line)
    (sec : OfferSection) : ∃ candidates td, CandidateReading pton6 line candidates ∧
      OfferTransportReading sec.td line td ∧
      sec.parseLine pton6 line = ({ td, candidates := sec.candidates ++ candidates }, true) := by
  obtain ⟨candidates, hcandidates⟩ := Option.ne_none_iff_exists'.mp
    fun hnone => (parseCandidates_eq_none_iff pton6 line).mp hnone h.1
  obtain ⟨td, htd⟩ := Option.ne_none_iff_exists'.mp
    fun hnone => (parseTransportInfo_eq_none_iff sec.td line).mp hnone h.2
  refine ⟨candidates, td, candidateReading_of_some pton6 hcandidates,
    offerTransportReading_of_some htd, ?_⟩
  unfold OfferSection.parseLine
  rw [hcandidates]
  dsimp only
  rw [htd]

/-- The calls for a line that is not accepted: nothing is added, as a candidate needs a value
too. -/
theorem offerParseLine_of_not_accepted {line : Bytes} (h : ¬ OfferSectionAccepted line)
    (sec : OfferSection) : ∃ sec', sec.parseLine pton6 line = (sec', false) ∧
      sec'.candidates = sec.candidates := by
  unfold OfferSection.parseLine
  cases hcandidates : parseCandidates pton6 line with
  | none => exact ⟨sec, rfl, rfl⟩
  | some candidates =>
      have hfirst : ascii "a=candidate:" <:+: line →
          8 ≤ (tokenize space [] (getAttribute line)).length := by
        by_contra hnot
        rw [(parseCandidates_eq_none_iff pton6 line).mpr hnot] at hcandidates
        cases hcandidates
      have hsecond : ¬ (ascii "a=ice-ufrag" <:+: line ∨ ascii "a=ice-pwd" <:+: line →
          getAttribute line ≠ []) := fun hsecond => h ⟨hfirst, hsecond⟩
      have hread := candidateReading_of_some pton6 hcandidates
      cases hread with
      | candidate hkey hne hfields => exact absurd (fun _ => hne) hsecond
      | nothing hkey =>
          dsimp only
          rw [(parseTransportInfo_eq_none_iff sec.td line).mpr hsecond]
          exact ⟨_, rfl, List.append_nil _⟩

/-- The second part of the loop body, in the current section. -/
theorem parseSectionLine_offer_cases (s : RemoteOffer) (line : Bytes) :
    s.parseSectionLine pton6 line =
      match sectionType s.mid with
      | none => (s, true)
      | some type =>
          (setOfferSection s type ((offerSection s type).parseLine pton6 line).1,
            ((offerSection s type).parseLine pton6 line).2) := by
  unfold RemoteOffer.parseSectionLine sectionType
  by_cases haudio : ascii "audio" = s.mid
  · rw [if_pos haudio, if_pos haudio]
    rfl
  · rw [if_neg haudio, if_neg haudio]
    by_cases hvideo : ascii "video" = s.mid
    · rw [if_pos hvideo, if_pos hvideo]
      rfl
    · rw [if_neg hvideo, if_neg hvideo]

/-- The local objects that an accepted line leaves. -/
def OfferLineLeaves (s : RemoteOffer) (line : Bytes) (s' : RemoteOffer) : Prop :=
  match sectionType (midAfter s.mid line) with
  | none => s' = afterOfferMedia s line
  | some type => ∃ candidates td, CandidateReading pton6 line candidates ∧
      OfferTransportReading (offerSection (afterOfferMedia s line) type).td line td ∧
      s' = setOfferSection (afterOfferMedia s line) type
        { td, candidates := (offerSection s type).candidates ++ candidates }

/-- How the loop ends with a last line: an exception leaves it, or the line is rejected, or it
is accepted. -/
inductive LastOfferLineEnds (s : RemoteOffer) (line : Bytes) : Prop
  | thrown (hthrows : ¬ OfferMediaSafe line) (hnot : ¬ OfferLineAccepted s.mid line)
      (hout : offerOutcome pton6 s [line] = none)
  | rejected (hsafe : OfferMediaSafe line) (hnot : ¬ OfferLineAccepted s.mid line)
      {s' : RemoteOffer} (hout : offerOutcome pton6 s [line] = some (-1, s'.partialDescription))
      (hcontents : s'.contents = s.contents ++ (openedOffer line).toList)
      (hgroups : s'.contentGroups = s.contentGroups ++ (offerBundleOf line).toList)
      (hcandidates : ∀ type, (offerSection s' type).candidates = (offerSection s type).candidates)
  | accepted (hsafe : OfferMediaSafe line) (haccepted : OfferLineAccepted s.mid line)
      {s' : RemoteOffer} (hparse : s.parseLines pton6 [line] = .ok s')
      (hout : offerOutcome pton6 s [line] = some (0, s'.description))
      (hs' : OfferLineLeaves pton6 s line s')

/-- Every last line ends in one of these ways. The cases are those of the media line, and then
those of the section it is for. -/
theorem lastOfferLineEnds (s : RemoteOffer) (line : Bytes) : LastOfferLineEnds pton6 s line := by
  rcases parseMediaLine_offer_cases s line with ⟨hmedia, hsafe, hparse⟩ | ⟨hmedia, hthrows, hparse⟩ |
    ⟨hmedia, hsafe, hparse⟩
  -- the media line is accepted: the rest is a matter of the section that is now current
  · obtain ⟨hcontents, hgroups, hmid, hsections⟩ := afterOfferMedia_spec hmedia s
    have hsection := parseSectionLine_offer_cases pton6 (afterOfferMedia s line) line
    rw [hmid] at hsection
    cases htype : sectionType (midAfter s.mid line) with
    -- without one the line is passed over
    | none =>
        rw [htype] at hsection
        have haccepted : OfferLineAccepted s.mid line := by
          refine ⟨hmedia, hsafe, fun hsome => ?_⟩
          rw [htype] at hsome
          cases hsome
        have hok : s.parseLines pton6 [line] = .ok (afterOfferMedia s line) := by
          rw [RemoteOffer.parseLines, hparse]
          dsimp only
          rw [hsection]
          rfl
        refine .accepted hsafe haccepted hok (by rw [offerOutcome, hok]) ?_
        unfold OfferLineLeaves
        rw [htype]
    | some type =>
        rw [htype] at hsection
        -- with one, its parsers accept the line or stop there
        by_cases hline : OfferSectionAccepted line
        · obtain ⟨candidates, td, hcandidates, htd, hcalls⟩ :=
            offerParseLine_of_accepted pton6 hline (offerSection (afterOfferMedia s line) type)
          dsimp only at hsection
          rw [hcalls, (hsections type).1] at hsection
          have hok : s.parseLines pton6 [line] = .ok (setOfferSection (afterOfferMedia s line) type
              { td, candidates := (offerSection s type).candidates ++ candidates }) := by
            rw [RemoteOffer.parseLines, hparse]
            dsimp only
            rw [hsection]
            rfl
          refine .accepted hsafe ⟨hmedia, hsafe, fun _ => hline⟩ hok (by rw [offerOutcome, hok]) ?_
          unfold OfferLineLeaves
          rw [htype]
          exact ⟨candidates, td, hcandidates, htd, rfl⟩
        · obtain ⟨sec', hcalls, hsame⟩ :=
            offerParseLine_of_not_accepted pton6 hline (offerSection (afterOfferMedia s line) type)
          dsimp only at hsection
          rw [hcalls] at hsection
          have hrejected : offerOutcome pton6 s [line] =
              some (-1, (setOfferSection (afterOfferMedia s line) type sec').partialDescription) := by
            rw [offerOutcome, RemoteOffer.parseLines, hparse]
            dsimp only
            rw [hsection]
          have hnot : ¬ OfferLineAccepted s.mid line := by
            intro h
            refine hline (h.2.2 ?_)
            rw [htype]
            rfl
          refine .rejected hsafe hnot hrejected ?_ ?_ ?_
          · rw [setOfferSection_contents, hcontents]
          · rw [setOfferSection_contentGroups, hgroups]
          · intro type'
            rw [offerSection_set]
            split_ifs with heq
            · rw [heq, hsame, (hsections type).1]
            · exact (hsections type').1
  -- the media line throws
  · refine .thrown hthrows (fun h => hthrows h.2.1) ?_
    rw [offerOutcome, RemoteOffer.parseLines, hparse]
  -- the media line is rejected, so nothing was opened and no group read
  · have hisMedia : IsOfferMedia line := by
      by_contra hnot
      exact hmedia fun h => absurd h hnot
    have hnone : openedOffer line = none := if_neg fun h => hmedia fun _ => h.2
    have hbundle : offerBundleOf line = none := if_neg fun h => hisMedia.1 h.1
    have hrejected : offerOutcome pton6 s [line] = some (-1, s.partialDescription) := by
      rw [offerOutcome, RemoteOffer.parseLines, hparse]
    exact .rejected hsafe (fun h => hmedia h.1) hrejected (by simp [hnone]) (by simp [hbundle])
      fun _ => rfl

end Line

/-! ### Two last lines -/

/-- The current section is in the description. -/
def OfferEntered (s : RemoteOffer) : Prop :=
  ∀ type, sectionType s.mid = some type → type ∈ s.contents

/-- What an accepted line gives and opens. -/
theorem OfferLineLeaves.spec {pton6 : Bytes → Option (Vector UInt8 16)} {s s' : RemoteOffer}
    {line : Bytes} (h : OfferLineLeaves pton6 s line s') (hmedia : OfferMediaAccepted line) :
    s'.contents = s.contents ++ (openedOffer line).toList ∧
      s'.contentGroups = s.contentGroups ++ (offerBundleOf line).toList ∧
      s'.mid = midAfter s.mid line := by
  obtain ⟨hcontents, hgroups, hmid, -⟩ := afterOfferMedia_spec hmedia s
  unfold OfferLineLeaves at h
  split at h
  · subst h
    exact ⟨hcontents, hgroups, hmid⟩
  · obtain ⟨candidates, td, -, -, rfl⟩ := h
    rw [setOfferSection_contents, setOfferSection_contentGroups, setOfferSection_mid]
    exact ⟨hcontents, hgroups, hmid⟩

/-- A section that an accepted line is in belongs to the description. -/
theorem OfferEntered.leaves {pton6 : Bytes → Option (Vector UInt8 16)} {s s' : RemoteOffer}
    {line : Bytes} (hs : OfferEntered s) (h : OfferLineLeaves pton6 s line s')
    (hmedia : OfferMediaAccepted line) : OfferEntered s' := by
  obtain ⟨hcontents, -, hmid⟩ := h.spec hmedia
  intro type htype
  rw [hmid] at htype
  rw [hcontents, List.mem_append]
  unfold midAfter at htype
  split_ifs at htype with hisMedia
  · have hopened : openedOffer line = some type := by
      unfold openedOffer
      rw [if_pos ⟨hisMedia, hmedia hisMedia⟩, htype]
    rw [hopened]
    exact .inr (List.mem_singleton_self type)
  · exact .inl (hs type htype)

/-- The first line, and then the others. -/
theorem offerLines_cons (pton6 : Bytes → Option (Vector UInt8 16)) (s : RemoteOffer)
    (line : Bytes) (lines : List Bytes) : s.parseLines pton6 (line :: lines) =
      s.parseLines pton6 [line] >>= (·.parseLines pton6 lines) := by
  rw [RemoteOffer.parseLines, RemoteOffer.parseLines]
  split
  · rfl
  · split <;> rfl

/-- The lines that are parsed keep it. -/
theorem OfferEntered.parseLines {pton6 : Bytes → Option (Vector UInt8 16)} {lines : List Bytes} :
    ∀ {s s' : RemoteOffer}, OfferEntered s → s.parseLines pton6 lines = .ok s' →
      OfferEntered s' := by
  induction lines with
  | nil =>
      intro s s' hs h
      cases h
      exact hs
  | cons line lines ih =>
      intro s s' hs h
      rw [offerLines_cons] at h
      obtain ⟨s₁, hline, hlines⟩ := bind_eq_ok.mp h
      have hout : offerOutcome pton6 s [line] = some (0, s₁.description) := by
        rw [offerOutcome, hline]
      cases lastOfferLineEnds pton6 s line with
      | thrown hthrows hnot hnone =>
          rw [hnone] at hout
          cases hout
      | rejected hsafe hnot hrejected =>
          rw [hrejected] at hout
          cases congrArg Prod.fst (Option.some.inj hout)
      | accepted hsafe haccepted hok hout' hleaves =>
          cases hline.symm.trans hok
          exact ih (hs.leaves hleaves haccepted.1) hlines

/-- What a description shows of the local objects: the sections that were opened, the groups, and
the candidates of these sections. -/
theorem offerPartial_eq_iff (s s' : RemoteOffer) :
    s.partialDescription = s'.partialDescription ↔
      s.contents = s'.contents ∧ s.contentGroups = s'.contentGroups ∧
        ∀ type ∈ s.contents, (offerSection s type).candidates = (offerSection s' type).candidates := by
  have htypes : ∀ s : RemoteOffer,
      s.partialDescription.contents.map MediaContentDescription.type = s.contents := by
    intro s
    show (s.contents.map _).map _ = _
    rw [List.map_map]
    refine (List.map_congr_left fun type _ => ?_).trans (List.map_id _)
    cases type <;> rfl
  have hcandidates : ∀ s : RemoteOffer,
      s.partialDescription.contents.map MediaContentDescription.candidates =
        s.contents.map fun type => (offerSection s type).candidates := by
    intro s
    show (s.contents.map _).map _ = _
    rw [List.map_map]
    refine List.map_congr_left fun type _ => ?_
    cases type <;> rfl
  -- the sections of a description are made of fixed ones: only kind and candidates differ
  constructor
  · intro heq
    have hcontents : s.contents = s'.contents := by
      rw [← htypes s, heq, htypes]
    have hmap := hcandidates s
    rw [heq, hcandidates s', ← hcontents] at hmap
    exact ⟨hcontents, congrArg SessionDescription.contentGroups heq,
      fun type htype => (List.map_inj_left.mp hmap type htype).symm⟩
  · rintro ⟨hcontents, hgroups, hcandidates⟩
    unfold RemoteOffer.partialDescription
    rw [← hcontents, hgroups]
    congr 1
    refine List.map_congr_left fun type htype => ?_
    have hsame := hcandidates type htype
    cases type with
    | audio =>
        show { audioContentDescription with candidates := (offerSection s .audio).candidates } = _
        rw [hsame]
        rfl
    | video =>
        show { videoContentDescription with candidates := (offerSection s .video).candidates } = _
        rw [hsame]
        rfl

/-- Two descriptions are equal exactly when their parts are, and the transports of both sections.
-/
theorem offerDescription_eq_iff (s s' : RemoteOffer) : s.description = s'.description ↔
    s.partialDescription = s'.partialDescription ∧
      ∀ type, (offerSection s type).td = (offerSection s' type).td := by
  constructor
  · intro heq
    have htds := congrArg SessionDescription.transportInfos heq
    obtain ⟨haudio, hvideo⟩ := List.cons.inj htds
    refine ⟨?_, fun type => ?_⟩
    · exact congrArg (fun d : SessionDescription => { d with transportInfos := [] }) heq
    · cases type with
      | audio => exact haudio
      | video => exact (List.cons.inj hvideo).1
  · rintro ⟨hsame, htds⟩
    have haudio : s.audio.td = s'.audio.td := htds .audio
    have hvideo : s.video.td = s'.video.td := htds .video
    rw [RemoteOffer.description, RemoteOffer.description, hsame, haudio, hvideo]

section Accepted

variable {pton6 : Bytes → Option (Vector UInt8 16)} {s s₁ s₂ : RemoteOffer} {x : Bytes} {c : UInt8}

/-- Of two accepted lines that give the same group, both are `m=` lines or neither is: one
character alone has too few fields, and an `m=` line has too many for the key of a group that is
just complete. -/
theorem isOfferMedia_concat_iff (h : OfferMediaAccepted x) (h' : OfferMediaAccepted (x ++ [c]))
    (hbundle : OfferBundleKept x c) : IsOfferMedia x ↔ IsOfferMedia (x ++ [c]) := by
  constructor
  · intro hmedia
    refine ⟨fun hkey => ?_, ?_⟩
    · have hkept := hbundle hkey
      rw [if_neg hmedia.1] at hkept
      have hfields := h hmedia
      omega
    · obtain ⟨-, b, hb, hmem⟩ := hmedia
      refine ⟨b, ?_, hmem⟩
      rw [List.head?_append, Option.mem_def.mp hb]
      rfl
  · intro hmedia
    refine ⟨fun hkey => hmedia.1 (infix_concat_of_within hkey c), ?_⟩
    cases x with
    | nil =>
        -- one character is too short for an `m=` line
        have hfields := h' hmedia
        have hnone : (tokenize space [] []).length = 0 := rfl
        have hlength := length_tokens_concat [] c
        rw [hnone] at hlength
        omega
    | cons first rest => exact hmedia.2

/-- Two accepted lines that give the same group do the same in the first part of the loop
body. -/
theorem afterOfferMedia_concat (h : OfferMediaAccepted x) (h' : OfferMediaAccepted (x ++ [c]))
    (hbundle : OfferBundleKept x c) :
    afterOfferMedia s (x ++ [c]) = afterOfferMedia s x ∧
      midAfter s.mid (x ++ [c]) = midAfter s.mid x := by
  have hmedia := isOfferMedia_concat_iff h h' hbundle
  unfold afterOfferMedia midAfter
  by_cases hx : IsOfferMedia x
  · have hfields := h hx
    rw [if_pos hx, if_pos hx, if_pos (hmedia.mp hx), if_pos (hmedia.mp hx),
      firstToken_concat (by omega)]
    exact ⟨rfl, rfl⟩
  · have hx' : ¬ IsOfferMedia (x ++ [c]) := fun hl => hx (hmedia.mpr hl)
    rw [if_neg hx, if_neg hx, if_neg hx', if_neg hx', (offerBundleOf_concat_iff x c).mpr hbundle]
    exact ⟨rfl, rfl⟩

/-- Two accepted lines in the same section say the same exactly under the conditions on its
parts. -/
theorem offerSection_concat_iff (hs : OfferEntered s) (h : OfferMediaAccepted x)
    (h' : OfferMediaAccepted (x ++ [c])) (hleaves : OfferLineLeaves pton6 s x s₁)
    (hleaves' : OfferLineLeaves pton6 s (x ++ [c]) s₂) (hbundle : OfferBundleKept x c) :
    s₁.description = s₂.description ↔ ∀ type, sectionType (midAfter s.mid x) = some type →
      CandidateKept x c ∧ OfferTransportKept (offerSection s type).td x c := by
  have hentered := hs.leaves hleaves h
  have hmid := (hleaves.spec h).2.2
  obtain ⟨hafter, hmidAfter⟩ := afterOfferMedia_concat (s := s) h h' hbundle
  obtain ⟨-, -, -, hsections⟩ := afterOfferMedia_spec h s
  unfold OfferLineLeaves at hleaves hleaves'
  rw [hafter, hmidAfter] at hleaves'
  -- both lines leave the same section the current one
  cases htype : sectionType (midAfter s.mid x) with
  | none =>
      rw [htype] at hleaves hleaves'
      refine iff_of_true (by rw [hleaves, hleaves']) ?_
      intro type hsome
      cases hsome
  | some type =>
      rw [htype] at hleaves hleaves'
      obtain ⟨candidates, td, hcandidates, htd, rfl⟩ := hleaves
      obtain ⟨candidates', td', hcandidates', htd', rfl⟩ := hleaves'
      obtain ⟨mid, hnamed⟩ := (hsections type).2
      have hmem := hentered type (by rw [hmid, htype])
      have htransport := offerTransport_concat_iff htd htd'
      rw [hnamed, offerTransportKept_mid] at htransport
      rw [setOfferSection_contents] at hmem
      rw [offerDescription_eq_iff, offerPartial_eq_iff]
      simp only [setOfferSection_contents, setOfferSection_contentGroups, offerSection_set,
        true_and, Option.some.injEq, forall_eq']
      rw [← candidate_concat_iff pton6 hcandidates hcandidates', ← htransport]
      -- only the section of this kind can differ, in its candidates and in its transport
      constructor
      · rintro ⟨hall, htds⟩
        have hcandidate := hall type hmem
        have htd := htds type
        rw [if_pos rfl, if_pos rfl] at hcandidate htd
        exact ⟨List.append_cancel_left hcandidate, htd⟩
      · rintro ⟨rfl, rfl⟩
        exact ⟨fun _ _ => rfl, fun _ => rfl⟩

/-- Two accepted lines do the same exactly if the last character changes none of the parts. -/
theorem acceptedOffer_concat_iff (hs : OfferEntered s) (h : OfferMediaAccepted x)
    (h' : OfferMediaAccepted (x ++ [c])) (hleaves : OfferLineLeaves pton6 s x s₁)
    (hleaves' : OfferLineLeaves pton6 s (x ++ [c]) s₂) :
    s₁.description = s₂.description ↔ OfferBundleKept x c ∧ OfferOpeningKept x c ∧
      ∀ type, sectionType (midAfter s.mid x) = some type →
        CandidateKept x c ∧ OfferTransportKept (offerSection s type).td x c := by
  constructor
  · intro heq
    obtain ⟨hcontents, hgroups, -⟩ :=
      (offerPartial_eq_iff _ _).mp ((offerDescription_eq_iff _ _).mp heq).1
    obtain ⟨hopened, hbundled, -⟩ := hleaves.spec h
    obtain ⟨hopened', hbundled', -⟩ := hleaves'.spec h'
    rw [hopened, hopened'] at hcontents
    rw [hbundled, hbundled'] at hgroups
    have hopening := (openedOffer_concat_iff x c).mp
      (optionToList_inj.mp (List.append_cancel_left hcontents))
    have hbundle := (offerBundleOf_concat_iff x c).mp
      (optionToList_inj.mp (List.append_cancel_left hgroups))
    exact ⟨hbundle, hopening, (offerSection_concat_iff hs h h' hleaves hleaves' hbundle).mp heq⟩
  · rintro ⟨hbundle, -, hsection⟩
    exact (offerSection_concat_iff hs h h' hleaves hleaves' hbundle).mpr hsection

end Accepted

/-- The two lines do the same as the last line exactly under the condition. -/
theorem offerOutcome_concat_iff (pton6 : Bytes → Option (Vector UInt8 16)) {s : RemoteOffer}
    (hs : OfferEntered s) (x : Bytes) (c : UInt8) :
    offerOutcome pton6 s [x] = offerOutcome pton6 s [x ++ [c]] ↔ KeptInSdk s x c := by
  have hdiffer : offerOutcome pton6 s [x] ≠ offerOutcome pton6 s [x ++ [c]] → ¬ KeptInSdk s x c →
      (offerOutcome pton6 s [x] = offerOutcome pton6 s [x ++ [c]] ↔ KeptInSdk s x c) :=
    iff_of_false
  -- the two lines end in one way each: nine cases, six of them with different return values
  cases lastOfferLineEnds pton6 s x with
  | thrown hthrows hnot hout =>
      cases lastOfferLineEnds pton6 s (x ++ [c]) with
      | thrown hthrows' hnot' hout' =>
          exact iff_of_true (hout.trans hout'.symm) (.thrown hthrows hthrows')
      | rejected hsafe' hnot' hout' =>
          refine hdiffer (by simp [hout, hout']) ?_
          rintro (_ | _ | _) <;> contradiction
      | accepted hsafe' haccepted' hparse' hout' =>
          refine hdiffer (by simp [hout, hout']) ?_
          rintro (_ | _ | _) <;> contradiction
  | rejected hsafe hnot hout hcontents hgroups hcandidates =>
      cases lastOfferLineEnds pton6 s (x ++ [c]) with
      | thrown hthrows' hnot' hout' =>
          refine hdiffer (by simp [hout, hout']) ?_
          rintro (_ | _ | _) <;> contradiction
      | rejected hsafe' hnot' hout' hcontents' hgroups' hcandidates' =>
          have hsame : ∀ types : List MediaType, ∀ type ∈ types,
              (offerSection _ type).candidates = (offerSection _ type).candidates :=
            fun _ type _ => (hcandidates type).trans (hcandidates' type).symm
          -- both are rejected: only the section that was opened and the group can be seen
          rw [hout, hout', Option.some.injEq, Prod.mk.injEq, and_iff_right rfl,
            offerPartial_eq_iff, and_iff_left (hsame _), hcontents, hcontents', hgroups, hgroups',
            List.append_cancel_left_eq, List.append_cancel_left_eq, optionToList_inj,
            optionToList_inj, openedOffer_concat_iff, offerBundleOf_concat_iff]
          constructor
          · rintro ⟨hopening, hbundle⟩
            exact .rejected hsafe hsafe' hnot hnot' hbundle hopening
          · rintro (⟨h, -⟩ | ⟨-, -, -, -, hbundle, hopening⟩ | ⟨h, -⟩)
            · exact absurd hsafe h
            · exact ⟨hopening, hbundle⟩
            · exact absurd h hnot
      | accepted hsafe' haccepted' hparse' hout' =>
          refine hdiffer (by simp [hout, hout']) ?_
          rintro (_ | _ | _) <;> contradiction
  | accepted hsafe haccepted hparse hout hleaves =>
      cases lastOfferLineEnds pton6 s (x ++ [c]) with
      | thrown hthrows' hnot' hout' =>
          refine hdiffer (by simp [hout, hout']) ?_
          rintro (_ | _ | _) <;> contradiction
      | rejected hsafe' hnot' hout' =>
          refine hdiffer (by simp [hout, hout']) ?_
          rintro (_ | _ | _) <;> contradiction
      | accepted hsafe' haccepted' hparse' hout' hleaves' =>
          -- both are accepted: the whole description can be seen
          rw [hout, hout', Option.some.injEq, Prod.mk.injEq, and_iff_right rfl,
            acceptedOffer_concat_iff hs haccepted.1 haccepted'.1 hleaves hleaves']
          constructor
          · rintro ⟨hbundle, hopening, hsection⟩
            exact .accepted haccepted haccepted' hbundle hopening hsection
          · rintro (⟨h, -⟩ | ⟨-, -, h, -⟩ | ⟨-, -, hbundle, hopening, hsection⟩)
            · exact absurd hsafe h
            · exact absurd haccepted h
            · exact ⟨hbundle, hopening, hsection⟩

end Xrtc.Proofs.Sdk
