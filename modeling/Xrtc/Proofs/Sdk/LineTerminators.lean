import Xrtc.Proofs.Pc.LastLine
import Xrtc.Proofs.Sdk.LastOfferLine

/-!
# `Xrtc.Proofs.Sdk.LineTerminators`: how the lines of an SDP end

Both parsers split a text at LF. If there is a CRLF anywhere, every line loses its last
character, whatever that is (`sdpFields`). So a text whose lines all end with LF and one
whose lines all end with CRLF mean the same (`sdpFields_lfEnded`, `sdpFields_printLines`).
If the lines are separated by CRLF, and the last one has no end, then its own last
character is lost, unless it is the only line (`sdpFields_crlfSeparated`).

`terminators_iff` is the exact condition for the three texts to mean the same, on the bytes of
the last line and on what its section has before it (`KeptInServer`, `KeptInSdk`). A line that
has no key meets it (`kept_of_noKey`), a line with a value does not (`lastUfrag_differs`).
-/

set_option autoImplicit false

namespace Xrtc.Proofs.Sdk

open Xrtc.Base
open Xrtc.Lib
open Xrtc.Ice (ascii)
open Xrtc.Pc (printLines sdpFields RemoteSdp SslAdapter)
open Xrtc.Proofs.Base
open Xrtc.Proofs.Pc
open Xrtc.Sdk

/-! ### Texts -/

/-- Every line ends with LF. -/
def lfEnded (lines : List Bytes) : Bytes := lines.flatMap fun line => line ++ [lf]

/-- CRLF between the lines, and nothing behind the last one. -/
def crlfSeparated (lines : List Bytes) : Bytes := List.intercalate [cr, lf] lines

/-- A line that is not empty. -/
def IsField (line : Bytes) : Prop := line ≠ [] ∧ IsLine line

/-- With CRLF between the lines, all but the last line end with it. -/
theorem crlfSeparated_concat (before : List Bytes) (last : Bytes) :
    crlfSeparated (before ++ [last]) = printLines before ++ last := by
  unfold crlfSeparated
  induction before with
  | nil => exact List.intercalate_singleton
  | cons line before ih =>
      have hne : before ++ [last] ≠ [] := by simp
      have htext : printLines (line :: before) = line ++ [cr, lf] ++ printLines before := rfl
      rw [List.cons_append, List.intercalate_cons_of_ne_nil hne, ih, htext, List.append_assoc,
        List.append_assoc, List.append_assoc]

/-- A text with LF at its ends is split into its lines. -/
theorem tokenize_lfEnded {lines : List Bytes} (h : ∀ line ∈ lines, IsField line) :
    tokenize lf [] (lfEnded lines) = lines := by
  induction lines with
  | nil => rfl
  | cons line lines ih =>
      obtain ⟨⟨hne, -, hline⟩, hlines⟩ := List.forall_mem_cons.mp h
      have htext : lfEnded (line :: lines) = line ++ lf :: lfEnded lines := by
        simp [lfEnded]
      rw [htext, tokenize_append hline hne, ih hlines]

/-- There is no CRLF, so no line loses a character. -/
theorem sdpFields_lfEnded {lines : List Bytes} (h : ∀ line ∈ lines, IsField line) :
    sdpFields (lfEnded lines) = lines := by
  have hcr : cr ∉ lfEnded lines := by
    intro hmem
    obtain ⟨line, hline, hmem⟩ := List.mem_flatMap.mp hmem
    rcases List.mem_append.mp hmem with hmem | hmem
    · exact (h line hline).2.1 hmem
    · exact absurd (List.mem_singleton.mp hmem) (by decide)
  have hcrlf : ¬ contains [cr, lf] (lfEnded lines) = true := by
    intro hcontains
    exact hcr ((contains_iff.mp hcontains).subset List.mem_cons_self)
  unfold sdpFields
  rw [tokenize_lfEnded h]
  exact if_neg hcrlf

/-- A text with CRLF between its lines is split at the LF, so that the CR stays at each line but
the last. -/
theorem tokenize_crlfSeparated {before : List Bytes} {last : Bytes}
    (h : ∀ line ∈ before, IsField line) (hlast : IsField last) :
    tokenize lf [] (printLines before ++ last) = before.map (fun line => line ++ [cr]) ++ [last] := by
  induction before with
  | nil => exact tokenize_of_not_mem hlast.2.2 hlast.1
  | cons line before ih =>
      obtain ⟨⟨-, -, hline⟩, hbefore⟩ := List.forall_mem_cons.mp h
      have hfield : lf ∉ line ++ [cr] := by
        rw [List.mem_append, not_or]
        exact ⟨hline, by decide⟩
      have htext : printLines (line :: before) ++ last =
          (line ++ [cr]) ++ lf :: (printLines before ++ last) := by
        simp [printLines]
      rw [htext, tokenize_append hfield (by simp), ih hbefore, List.map_cons, List.cons_append]

/-- The last line loses a character if there is a line before it. -/
theorem sdpFields_crlfSeparated {before : List Bytes} {last : Bytes}
    (h : ∀ line ∈ before, IsField line) (hlast : IsField last) :
    sdpFields (crlfSeparated (before ++ [last])) =
      before ++ [if before = [] then last else last.dropLast] := by
  rw [crlfSeparated_concat]
  unfold sdpFields
  rw [tokenize_crlfSeparated h hlast]
  by_cases hbefore : before = []
  · subst hbefore
    have hcrlf : ¬ contains [cr, lf] last = true := by
      intro hcontains
      exact hlast.2.1 ((contains_iff.mp hcontains).subset List.mem_cons_self)
    exact if_neg hcrlf
  · have hcrlf : contains [cr, lf] (printLines before ++ last) = true :=
      contains_iff.mpr ((crlf_infix_printed hbefore).trans (List.prefix_append _ _).isInfix)
    have hdrop : (List.dropLast ∘ fun line : Bytes => line ++ [cr]) = id := by
      funext line
      exact List.dropLast_concat
    show (if contains [cr, lf] (printLines before ++ last) then _ else _) = _
    rw [if_pos hcrlf, if_neg hbefore, List.map_append, List.map_map, hdrop, List.map_id,
      List.map_singleton]

/-! ### What the parsers make of lines -/

/-- The return value and the description, if `SetRemoteSDP` returns. -/
def observedOffer : SetRemoteSDP → Option (Int × Option SessionDescription)
  | .returns ret pc => some (ret, pc.remoteDesc)
  | .outOfRange => none

/-- The last line is parsed in the state that the others lead to. -/
theorem parseLines_concat (before : List Bytes) (line : Bytes) : ∀ s : RemoteSdp,
    s.parseLines (before ++ [line]) = s.parseLines before >>= (·.parseLines [line]) := by
  induction before with
  | nil => exact fun s => rfl
  | cons field before ih =>
      intro s
      simp only [List.cons_append, RemoteSdp.parseLines, ih, bind_assoc]

/-- The same for the parser of offers, which may also stop at a line. -/
theorem offerLines_concat (pton6 : Bytes → Option (Vector UInt8 16)) (before : List Bytes)
    (line : Bytes) : ∀ s : RemoteOffer,
      s.parseLines pton6 (before ++ [line]) =
        s.parseLines pton6 before >>= (·.parseLines pton6 [line]) := by
  induction before with
  | nil => exact fun s => rfl
  | cons field before ih =>
      intro s
      rw [List.cons_append, RemoteOffer.parseLines, RemoteOffer.parseLines]
      split
      · rfl
      · split
        · rfl
        · exact ih _

/-- Texts of which the loop makes the same, on any connection. -/
theorem observed_congr (ssl : SslAdapter) (pc : Pc.PeerConnection) {sdp sdp' : Bytes}
    (h : sdpFields sdp ≠ []) (h' : sdpFields sdp' ≠ [])
    (hsame : parsed (sdpFields sdp) = parsed (sdpFields sdp')) :
    observed (pc.setRemoteSdp ssl sdp) = observed (pc.setRemoteSdp ssl sdp') := by
  unfold parsed at hsame
  unfold Pc.PeerConnection.setRemoteSdp
  rw [if_neg h, if_neg h']
  revert hsame
  rcases RemoteSdp.parseLines {} (sdpFields sdp) with ⟨_ | _, s⟩ | s <;>
    rcases RemoteSdp.parseLines {} (sdpFields sdp') with ⟨_ | _, s'⟩ | s' <;> intro hsame <;>
    simp_all [observed]

/-- What is observed of a call is the outcome of its lines. -/
theorem observedOffer_setRemoteSDP (pton6 : Bytes → Option (Vector UInt8 16)) (pc : Signaling)
    (sdp : Bytes) (h : sdpFields sdp ≠ []) :
    observedOffer (pc.setRemoteSDP pton6 sdp) =
      (offerOutcome pton6 {} (sdpFields sdp)).map fun r => (r.1, some r.2) := by
  unfold Signaling.setRemoteSDP offerOutcome
  rw [if_neg h]
  rcases RemoteOffer.parseLines pton6 {} (sdpFields sdp) with ⟨_ | _, s⟩ | s <;> rfl

/-! ### The last line -/

/-- Behind lines that are parsed, two last lines are compared in the state that these leave. -/
theorem parsed_concat_iff (before : List Bytes) (line line' : Bytes) :
    parsed (before ++ [line]) = parsed (before ++ [line']) ↔
      ∀ s, RemoteSdp.parseLines {} before = .ok s → outcome s [line] = outcome s [line'] := by
  show outcome {} _ = outcome {} _ ↔ _
  unfold outcome
  rw [parseLines_concat, parseLines_concat]
  cases RemoteSdp.parseLines {} before with
  | error e =>
      refine iff_of_true rfl ?_
      intro s hs
      cases hs
  | ok s =>
      constructor
      · intro h s' hs'
        cases hs'
        exact h
      · intro h
        exact h s rfl

/-- Two last lines have one outcome behind the same lines exactly when they have it in the state
these lead to, if they lead to one. -/
theorem offerOutcome_before_iff (pton6 : Bytes → Option (Vector UInt8 16)) (before : List Bytes)
    (line line' : Bytes) :
    offerOutcome pton6 {} (before ++ [line]) = offerOutcome pton6 {} (before ++ [line']) ↔
      ∀ s, RemoteOffer.parseLines pton6 {} before = .ok s →
        offerOutcome pton6 s [line] = offerOutcome pton6 s [line'] := by
  unfold offerOutcome
  rw [offerLines_concat, offerLines_concat]
  cases RemoteOffer.parseLines pton6 {} before with
  | error e =>
      refine iff_of_true rfl ?_
      intro s hs
      cases hs
  | ok s =>
      constructor
      · intro h s' hs'
        cases hs'
        exact h
      · intro h
        exact h s rfl

/-- Before the first `m=` line there is no section. -/
theorem entered_before {before : List Bytes} {s : RemoteSdp}
    (h : RemoteSdp.parseLines {} before = .ok s) : Entered s := by
  refine Entered.parseLines ?_ h
  intro type htype
  cases type <;> simp [sectionType, ascii] at htype

/-- A section is the current one only after its head was read. -/
theorem offerEntered_before {pton6 : Bytes → Option (Vector UInt8 16)} {before : List Bytes}
    {s : RemoteOffer} (h : RemoteOffer.parseLines pton6 {} before = .ok s) : OfferEntered s := by
  refine OfferEntered.parseLines ?_ h
  intro type htype
  cases type <;> simp [sectionType, ascii] at htype

/-- The three texts give the same in the server, on any connection. -/
def SameInServer (lines : List Bytes) : Prop :=
  ∀ (ssl : SslAdapter) (pc : Pc.PeerConnection),
    observed (pc.setRemoteSdp ssl (lfEnded lines)) =
        observed (pc.setRemoteSdp ssl (printLines lines)) ∧
      observed (pc.setRemoteSdp ssl (crlfSeparated lines)) =
        observed (pc.setRemoteSdp ssl (printLines lines))

/-- The three texts give the same in the SDK, on any connection. -/
def SameInSdk (pton6 : Bytes → Option (Vector UInt8 16)) (lines : List Bytes) : Prop :=
  ∀ pc : Signaling,
    observedOffer (pc.setRemoteSDP pton6 (lfEnded lines)) =
        observedOffer (pc.setRemoteSDP pton6 (printLines lines)) ∧
      observedOffer (pc.setRemoteSDP pton6 (crlfSeparated lines)) =
        observedOffer (pc.setRemoteSDP pton6 (printLines lines))

section
variable {before : List Bytes} {x : Bytes} {c : UInt8}
  (h : ∀ line ∈ before ++ [x ++ [c]], IsField line)
include h

/-- The lines of the three texts. -/
theorem sdpFields_texts :
    sdpFields (lfEnded (before ++ [x ++ [c]])) = before ++ [x ++ [c]] ∧
      sdpFields (printLines (before ++ [x ++ [c]])) = before ++ [x ++ [c]] ∧
      sdpFields (crlfSeparated (before ++ [x ++ [c]])) =
        before ++ [if before = [] then x ++ [c] else x] := by
  refine ⟨sdpFields_lfEnded h, sdpFields_printLines fun line hline => (h line hline).2.2, ?_⟩
  have hfields := sdpFields_crlfSeparated (fun line hline => h line (List.mem_append_left _ hline))
    (h _ (List.mem_append_right _ (List.mem_singleton_self _)))
  rw [List.dropLast_concat] at hfields
  exact hfields

/-- The server makes the same of the three texts exactly if the last line is the only one, or
its last character changes nothing. -/
theorem sameInServer_iff : SameInServer (before ++ [x ++ [c]]) ↔
    (before ≠ [] → ∀ s, RemoteSdp.parseLines {} before = .ok s → KeptInServer s x c) := by
  obtain ⟨hlf, hcrlf, hseparated⟩ := sdpFields_texts h
  have hne : ∀ {sdp line}, sdpFields sdp = before ++ [line] → sdpFields sdp ≠ [] := by
    intro sdp line hfields
    rw [hfields]
    simp
  have hkept : parsed (before ++ [x]) = parsed (before ++ [x ++ [c]]) ↔
      ∀ s, RemoteSdp.parseLines {} before = .ok s → KeptInServer s x c := by
    rw [parsed_concat_iff]
    exact forall₂_congr fun s hs => outcome_concat_iff (entered_before hs) x c
  rw [← hkept]
  constructor
  · intro hall hbefore
    -- a new connection shows a difference
    have heq := (hall quietAdapter {}).2
    rw [observed_setRemoteSdp quietAdapter (hne hseparated),
      observed_setRemoteSdp quietAdapter (hne hcrlf), hseparated, hcrlf, if_neg hbefore] at heq
    refine Option.map_injective ?_ heq
    intro r r' hr
    simpa [Prod.ext_iff] using hr
  · intro hsame ssl pc
    constructor
    · refine observed_congr ssl pc (hne hlf) (hne hcrlf) ?_
      rw [hlf, hcrlf]
    · refine observed_congr ssl pc (hne hseparated) (hne hcrlf) ?_
      rw [hseparated, hcrlf]
      by_cases hbefore : before = []
      · rw [if_pos hbefore]
      · rw [if_neg hbefore]
        exact hsame hbefore

/-- The same for the SDK. Its description is what the parser leaves, so that a call with nothing
before it observes all of it. -/
theorem sameInSdk_iff (pton6 : Bytes → Option (Vector UInt8 16)) :
    SameInSdk pton6 (before ++ [x ++ [c]]) ↔
      (before ≠ [] → ∀ s, RemoteOffer.parseLines pton6 {} before = .ok s → KeptInSdk s x c) := by
  obtain ⟨hlf, hcrlf, hseparated⟩ := sdpFields_texts h
  have hobserved : ∀ pc : Signaling, ∀ sdp line, sdpFields sdp = before ++ [line] →
      observedOffer (pc.setRemoteSDP pton6 sdp) =
        (offerOutcome pton6 {} (before ++ [line])).map fun r => (r.1, some r.2) := by
    intro pc sdp line hfields
    have hne : sdpFields sdp ≠ [] := by
      rw [hfields]
      simp
    rw [observedOffer_setRemoteSDP pton6 pc sdp hne, hfields]
  -- the lines in front are the same, so their state decides
  have hkept : offerOutcome pton6 {} (before ++ [x]) =
        offerOutcome pton6 {} (before ++ [x ++ [c]]) ↔
      ∀ s, RemoteOffer.parseLines pton6 {} before = .ok s → KeptInSdk s x c := by
    rw [offerOutcome_before_iff]
    exact forall₂_congr fun s hs => offerOutcome_concat_iff pton6 (offerEntered_before hs) x c
  rw [← hkept]
  constructor
  -- a new connection observes all of the outcome
  · intro hall hbefore
    have heq := (hall {}).2
    rw [hobserved {} _ _ hseparated, hobserved {} _ _ hcrlf, if_neg hbefore] at heq
    refine Option.map_injective ?_ heq
    intro r r' hr
    simpa [Prod.ext_iff] using hr
  · intro hsame pc
    rw [hobserved pc _ _ hlf, hobserved pc _ _ hseparated, hobserved pc _ _ hcrlf]
    refine ⟨rfl, ?_⟩
    by_cases hbefore : before = []
    · rw [if_pos hbefore]
    · rw [if_neg hbefore, hsame hbefore]

end

/-- The three texts mean the same in both parsers exactly if there is no line before the last one,
or neither parser misses the last character. `KeptInServer` and `KeptInSdk` say when, by the bytes
of the last line and what the section it is in says already. -/
theorem terminators_iff (pton6 : Bytes → Option (Vector UInt8 16)) {lines : List Bytes}
    (hlines : ∀ line ∈ lines, IsField line) :
    SameInServer lines ∧ SameInSdk pton6 lines ↔
      ∀ before x c, lines = before ++ [x ++ [c]] → before ≠ [] →
        (∀ s, RemoteSdp.parseLines {} before = .ok s → KeptInServer s x c) ∧
          (∀ s, RemoteOffer.parseLines pton6 {} before = .ok s → KeptInSdk s x c) := by
  rcases List.eq_nil_or_concat' lines with rfl | ⟨before, last, rfl⟩
  · refine iff_of_true ⟨fun ssl pc => ⟨rfl, rfl⟩, fun pc => ⟨rfl, rfl⟩⟩ ?_
    intro before x c heq
    simp at heq
  -- the last line is not empty
  obtain ⟨hne, -⟩ := hlines last (List.mem_append_right _ (List.mem_singleton_self last))
  obtain rfl | ⟨x, c, rfl⟩ := List.eq_nil_or_concat' last
  · exact absurd rfl hne
  rw [sameInServer_iff hlines, sameInSdk_iff hlines pton6]
  constructor
  · rintro ⟨hserver, hsdk⟩ before' x' c' heq hbefore
    obtain ⟨rfl, hlast⟩ := List.append_inj' heq rfl
    obtain ⟨rfl, hc⟩ := List.append_inj' (List.cons.inj hlast).1 rfl
    cases hc
    exact ⟨hserver hbefore, hsdk hbefore⟩
  · intro hall
    exact ⟨fun hbefore => (hall before x c rfl hbefore).1,
      fun hbefore => (hall before x c rfl hbefore).2⟩

/-! ### Lines that keep their effect -/

/-- What the parsers look for in a line, apart from the first character of an `m=` line. -/
def keys : List Bytes :=
  ascii "m=" :: ascii "a=group:BUNDLE" :: ascii "a=candidate:" :: sectionKeys

/-- A line that has none of it. -/
def NoKey (line : Bytes) : Prop :=
  (∀ key ∈ keys, ¬ key <:+: line) ∧ ∀ b ∈ line.head?, b ∉ ascii "m="

/-- A line without a key has none with its last character gone. -/
theorem NoKey.shorter {x : Bytes} {c : UInt8} (h : NoKey (x ++ [c])) : NoKey x := by
  constructor
  · intro key hkey hin
    exact h.1 key hkey (infix_concat_of_within hin c)
  · intro b hb
    refine h.2 b ?_
    rw [List.head?_append, Option.mem_def.mp hb]
    rfl

/-- A last line without a key changes nothing, so the outcome is that of the lines in front. -/
theorem outcome_of_noKey {line : Bytes} (h : NoKey line) (s : RemoteSdp) :
    outcome s [line] = some (0, s.description) := by
  have hmedia : ¬ ascii "m=" <:+: line := h.1 _ (by simp [keys])
  have hgroup : ¬ ascii "m=group:BUNDLE" <:+: line := by
    intro hinfix
    refine hmedia (List.IsInfix.trans ⟨[], ascii "group:BUNDLE", ?_⟩ hinfix)
    simp [ascii]
  have hinert : Inert line := by
    refine ⟨?_, fun key hkey => h.1 key (by simp [keys, hkey])⟩
    rw [if_neg hgroup]
    exact hmedia
  obtain ⟨e, he, happly⟩ := lineEffect_of_inert hinert s.mediaType
  unfold outcome
  rw [parseLines_of_ok he, happly]
  rfl

/-- The parser of offers passes over such a line too. -/
theorem offerOutcome_of_noKey (pton6 : Bytes → Option (Vector UInt8 16)) {line : Bytes}
    (h : NoKey line) (s : RemoteOffer) :
    offerOutcome pton6 s [line] = some (0, s.description) := by
  have hinert : ∀ line' ∈ [line], OfferInert line' := by
    intro line' hline'
    rw [List.mem_singleton.mp hline']
    refine ⟨?_, h.2⟩
    simp only [offerKeys, List.forall_mem_cons]
    exact ⟨h.1 _ (by simp [keys]), h.1 _ (by simp [keys]), h.1 _ (by simp [keys, sectionKeys]),
      h.1 _ (by simp [keys, sectionKeys]), fun key hkey => absurd hkey List.not_mem_nil⟩
  have hparse := @parseLines_offerInert pton6 _ hinert [] s
  unfold offerOutcome
  rw [← List.append_nil [line], hparse]
  rfl

/-- A last line that has no key meets the condition, as it has no effect. -/
theorem kept_of_noKey (pton6 : Bytes → Option (Vector UInt8 16)) (before : List Bytes)
    {x : Bytes} {c : UInt8} (h : NoKey (x ++ [c])) :
    (∀ s, RemoteSdp.parseLines {} before = .ok s → KeptInServer s x c) ∧
      (∀ s, RemoteOffer.parseLines pton6 {} before = .ok s → KeptInSdk s x c) := by
  constructor
  · intro s hs
    rw [← outcome_concat_iff (entered_before hs), outcome_of_noKey h, outcome_of_noKey h.shorter]
  · intro s hs
    rw [← offerOutcome_concat_iff pton6 (offerEntered_before hs), offerOutcome_of_noKey pton6 h,
      offerOutcome_of_noKey pton6 h.shorter]

/-! ### A line that does not -/

/-- An audio section with an ICE user name. -/
def ufragLines : List Bytes := [opening .audio] ++ [ascii "a=ice-ufrag:ab"]

/-- Each of these lines is one field. -/
theorem isField_ufragLines : ∀ line ∈ ufragLines, IsField line := by
  simp [ufragLines, IsField, IsLine, opening, Pc.MediaType.mid, ascii, cr, lf]

/-- The three texts mean the same exactly if the last character of the user name says
nothing. -/
theorem ufragLines_terminators :
    SameInServer ufragLines ∧ SameInSdk (fun _ => none) ufragLines ↔
      ∀ before x c, ufragLines = before ++ [x ++ [c]] → before ≠ [] →
        (∀ s, RemoteSdp.parseLines {} before = .ok s → KeptInServer s x c) ∧
          (∀ s, RemoteOffer.parseLines (fun _ => none) {} before = .ok s → KeptInSdk s x c) :=
  terminators_iff (fun _ => none) isField_ufragLines

/-- The user name becomes shorter in both parsers if the last line has no end. -/
theorem lastUfrag_differs :
    ¬ SameInServer ufragLines ∧ ¬ SameInSdk (fun _ => none) ufragLines := by
  have hbefore : [opening .audio] ≠ [] := List.cons_ne_nil _ _
  have hlast : ufragLines = [opening .audio] ++ [ascii "a=ice-ufrag:a" ++ [0x62]] := by
    simp [ufragLines, ascii]
  have hfields := isField_ufragLines
  rw [hlast] at hfields ⊢
  constructor
  · intro hsame
    have hkept := (sameInServer_iff hfields).mp hsame hbefore _ (parseLines_opening .audio)
    have hentered := entered_before (parseLines_opening .audio)
    have hne : (outcome (RemoteSdp.enter {} Pc.MediaType.audio.mid)
          [ascii "a=ice-ufrag:a"]).map (fun r => r.2.transportInfos) ≠
        (outcome (RemoteSdp.enter {} Pc.MediaType.audio.mid)
          [ascii "a=ice-ufrag:a" ++ [0x62]]).map fun r => r.2.transportInfos := by
      decide +kernel
    exact hne (congrArg _ ((outcome_concat_iff hentered _ _).mpr hkept))
  · intro hsame
    have hopening : RemoteOffer.parseLines (fun _ => none) {} [opening .audio] =
        .ok (RemoteOffer.enter {} Pc.MediaType.audio.mid) := by
      decide +kernel
    have hkept := (sameInSdk_iff hfields (fun _ => none)).mp hsame hbefore _ hopening
    have hentered := offerEntered_before hopening
    have hne : (offerOutcome (fun _ => none) (RemoteOffer.enter {} Pc.MediaType.audio.mid)
          [ascii "a=ice-ufrag:a"]).map (fun r => r.2.transportInfos) ≠
        (offerOutcome (fun _ => none) (RemoteOffer.enter {} Pc.MediaType.audio.mid)
          [ascii "a=ice-ufrag:a" ++ [0x62]]).map fun r => r.2.transportInfos := by
      decide +kernel
    exact hne (congrArg _ ((offerOutcome_concat_iff _ hentered _ _).mpr hkept))

end Xrtc.Proofs.Sdk
