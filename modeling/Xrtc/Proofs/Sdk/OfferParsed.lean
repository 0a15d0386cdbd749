import Xrtc.Proofs.Sdk.AnswerParsed
import Xrtc.Proofs.Sdk.OfferLines

/-!
# `Xrtc.Proofs.Sdk.OfferParsed`: the offer as the SDK reads it

An offer of the server without streams has four kinds of lines: inert ones, the lines of the
sections and of their group, the credentials of a transport, and the candidates. A section is
read into the local objects `readOffer` says, up to the form of the candidates
(`parseLines_offerSection`).

`PrintedOffer` says what is needed of a description for this. Of its text the SDK recovers the
sections, the group, the credentials and the candidates (`printedOffer_recovered`).
-/

set_option autoImplicit false

namespace Xrtc.Proofs.Sdk

open Xrtc.Base
open Xrtc.Lib
open Xrtc.Ice (ascii colon IceParameters)
open Xrtc.Pc (MediaType RtpDirection ContentGroup SSLFingerprint candidateLine transportLines
  mediaLine rtpMapLines rtpDirectionLine hexDigit)
open Xrtc.Sdk
open Xrtc.Proofs.Base
open Xrtc.Proofs.Pc

variable {pton6 : Bytes → Option (Vector UInt8 16)} {ntop6 : Vector UInt8 16 → Bytes}

/-! ### Lines that change nothing -/

/-- An inert line that ends where it is printed to end. -/
def Skipped (line : Bytes) : Prop := OfferInert line ∧ lf ∉ line

instance (line : Bytes) : Decidable (Skipped line) := inferInstanceAs (Decidable (_ ∧ _))

/-- The lines of the version are skipped by the client. -/
theorem skipped_versionLines : ∀ line ∈ Pc.SessionDescription.versionLines, Skipped line := by
  decide +kernel

/-- So is `msid-semantic`. -/
theorem skipped_msidSemantic : Skipped (ascii "a=msid-semantic: WMS") := by decide +kernel

/-- So are the lines about the connection. -/
theorem skipped_connectionLines : ∀ line ∈ connectionLines, Skipped line := by decide +kernel

/-- So are the lines of the direction, of the codecs and of the multiplexing. -/
theorem skipped_attributeLines (type : MediaType) (direction : RtpDirection) (rtcpMux : Bool) :
    ∀ line ∈ attributeLines type direction rtcpMux, Skipped line := by
  refine forall_attributeLines ?_ ?_ ?_ ?_
  · cases type <;> decide +kernel
  · cases direction <;> decide +kernel
  · decide +kernel
  · cases type <;> decide +kernel

/-- An attribute that begins with none of the four names. -/
theorem skipped_attribute {name value : Bytes}
    (hname : ∀ key ∈ [ascii "group:BUNDLE", ascii "candidate:", ascii "ice-ufrag", ascii "ice-pwd"],
      ¬ key <+: name ∧ ¬ name <+: key)
    (hequals : equals ∉ name ++ value) (hlf : lf ∉ name ++ value) :
    Skipped (ascii "a=" ++ (name ++ value)) := by
  have hkey : ∀ key ∈ [ascii "group:BUNDLE", ascii "candidate:", ascii "ice-ufrag",
      ascii "ice-pwd"], ¬ key <+: name ++ value :=
    fun key hkey => not_prefix_append (hname key hkey).1 (hname key hkey).2
  constructor
  · exact offerInert_attribute hequals (hkey _ (by simp)) (hkey _ (by simp)) (hkey _ (by simp))
      (hkey _ (by simp))
  · rw [List.mem_append, not_or]
    exact ⟨by simp [ascii, lf], hlf⟩

/-! ### Fingerprints -/

/-- The algorithms of `OpenSSLCertificate::GetSignatureDigestAlgorithm`, of which
`CreateFromCertificate` takes one. -/
def signatureDigestAlgorithms : List Bytes :=
  [ascii "md5", ascii "sha-1", ascii "sha-224", ascii "sha-256", ascii "sha-384", ascii "sha-512"]

/-- A digit is printed as one of sixteen characters. -/
theorem hexDigit_mem {val : UInt8} (h : val < 16) : hexDigit val ∈ ascii "0123456789ABCDEF" := by
  have hlt : val.toNat < 16 := h
  rw [← UInt8.ofNat_toNat (x := val)]
  interval_cases val.toNat <;> decide +kernel

/-- The text of a fingerprint has hexadecimal digits and colons in it and nothing else. -/
theorem not_mem_getRfc4572Fingerprint {b : UInt8} (hcolon : b ∉ ascii ":")
    (hdigit : b ∉ ascii "0123456789ABCDEF") (fp : SSLFingerprint) :
    b ∉ fp.getRfc4572Fingerprint := by
  -- both halves of a byte are hex digits
  have hhigh : ∀ x : UInt8, x >>> 4 < 16 := by
    intro x
    have hx := x.toNat_lt
    show (x >>> 4).toNat < 16
    simp [Nat.shiftRight_eq_div_pow]
    omega
  have hlow : ∀ x : UInt8, x &&& 0xf < 16 := by
    intro x
    show (x &&& 0xf).toNat < 16
    rw [UInt8.toNat_and]
    exact Nat.lt_of_le_of_lt Nat.and_le_right (by decide)
  intro hmem
  obtain ⟨x, -, hb⟩ := List.mem_flatMap.mp (List.mem_of_mem_drop hmem)
  rcases List.mem_append.mp hb with hb | hb
  · exact hcolon hb
  · rcases List.mem_cons.mp hb with rfl | hb
    · exact hdigit (hexDigit_mem (hhigh x))
    · rw [List.mem_singleton.mp hb] at hdigit
      exact hdigit (hexDigit_mem (hlow x))

/-- The line of a fingerprint. -/
theorem skipped_fingerprint {fp : SSLFingerprint} (h : fp.algorithm ∈ signatureDigestAlgorithms) :
    Skipped (ascii "a=fingerprint:" ++ fp.algorithm ++ ascii " " ++ fp.getRfc4572Fingerprint) := by
  have hline : ascii "a=fingerprint:" ++ fp.algorithm ++ ascii " " ++ fp.getRfc4572Fingerprint =
      ascii "a=" ++ (ascii "fingerprint:" ++ (fp.algorithm ++ ascii " " ++
        fp.getRfc4572Fingerprint)) := by
    simp [ascii]
  have halgorithm : ∀ algorithm ∈ signatureDigestAlgorithms,
      equals ∉ algorithm ++ ascii " " ∧ lf ∉ algorithm ++ ascii " " := by
    decide +kernel
  obtain ⟨hequals, hlf⟩ := halgorithm fp.algorithm h
  rw [hline]
  refine skipped_attribute (by simp [ascii]) ?_ ?_
  · rw [List.mem_append, not_or, List.mem_append, not_or]
    exact ⟨by simp [ascii, equals], hequals, not_mem_getRfc4572Fingerprint (by simp [ascii, equals])
      (by simp [ascii, equals]) fp⟩
  · rw [List.mem_append, not_or, List.mem_append, not_or]
    exact ⟨by simp [ascii, lf], hlf, not_mem_getRfc4572Fingerprint (by simp [ascii, lf])
      (by simp [ascii, lf]) fp⟩

/-! ### The lines of a section -/

/-- A transport that an offer can be printed with. -/
structure PrintedTransport (td : Pc.TransportDescription) : Prop where
  iceUfrag : IsRandomString td.iceUfrag
  icePwd : IsRandomString td.icePwd
  connectionRole : td.connectionRole = .actpass
  fingerprint : ∀ fp ∈ td.identityFingerprint, fp.algorithm ∈ signatureDigestAlgorithms

/-- The lines of a transport behind its credentials. -/
def fingerprintLines (td : Pc.TransportDescription) : List Bytes :=
  match td.identityFingerprint with
  | none => []
  | some fp =>
      [ascii "a=fingerprint:" ++ fp.algorithm ++ ascii " " ++ fp.getRfc4572Fingerprint,
        ascii "a=setup:" ++ td.connectionRole.toString]

/-- The client skips the fingerprint and the role of a transport. -/
theorem skipped_fingerprintLines {td : Pc.TransportDescription} (h : PrintedTransport td) :
    ∀ line ∈ fingerprintLines td, Skipped line := by
  have hsetup : Skipped (ascii "a=setup:" ++ Pc.ConnectionRole.actpass.toString) := by
    decide +kernel
  unfold fingerprintLines
  cases hfp : td.identityFingerprint with
  | none => exact fun line hline => absurd hline List.not_mem_nil
  | some fp =>
      dsimp only
      rw [h.connectionRole]
      simp only [List.forall_mem_cons]
      exact ⟨skipped_fingerprint (h.fingerprint fp hfp), hsetup,
        fun line hline => absurd hline List.not_mem_nil⟩

/-- The lines of a transport are its credentials and then its fingerprint with the role. -/
theorem transportLines_eq (td : Pc.TransportDescription) :
    transportLines td = (ascii "a=" ++ (ascii "ice-ufrag:" ++ td.iceUfrag)) ::
      (ascii "a=" ++ (ascii "ice-pwd:" ++ td.icePwd)) :: fingerprintLines td := by
  have hufrag : ascii "a=ice-ufrag:" = ascii "a=" ++ ascii "ice-ufrag:" := by simp [ascii]
  have hpwd : ascii "a=ice-pwd:" = ascii "a=" ++ ascii "ice-pwd:" := by simp [ascii]
  unfold transportLines fingerprintLines
  rw [hufrag, hpwd, List.append_assoc, List.append_assoc]
  rfl

/-- A transport, or none, in its section. -/
def sectionTransport (td : Option Pc.TransportDescription) : List Bytes :=
  match td with
  | none => []
  | some td => transportLines td

/-- What the SDK makes of it. -/
def readTransport (type : MediaType) (td : Option Pc.TransportDescription) : TransportDescription where
  mid := type.mid
  iceUfrag := (td.map Pc.TransportDescription.iceUfrag).getD []
  icePwd := (td.map Pc.TransportDescription.icePwd).getD []

/-- The credentials of the section are read, and the lines behind them are skipped. Without a
transport there are no such lines. -/
theorem parseLines_sectionTransport {td : Option Pc.TransportDescription}
    (htd : ∀ td' ∈ td, PrintedTransport td') {s : RemoteOffer} {type : MediaType}
    (hs : s.mid = type.mid) {candidates : List Candidate}
    (hsec : offerSection s type = { td := { mid := type.mid }, candidates }) (rest : List Bytes) :
    s.parseLines pton6 (sectionTransport td ++ rest) =
      (setOfferSection s type { td := readTransport type td, candidates }).parseLines pton6 rest := by
  cases td with
  | none =>
      -- nothing is printed, and the credentials stay empty
      have hsame : setOfferSection s type { td := readTransport type none, candidates } = s := by
        show setOfferSection s type { td := { mid := type.mid }, candidates } = s
        rw [← hsec, setOfferSection_self]
      rw [hsame]
      rfl
  | some td =>
      obtain ⟨hufrag, hpwd, -, -⟩ := htd td rfl
      have hinert := skipped_fingerprintLines (htd td rfl)
      have hequals : equals ∉ ascii "ice-ufrag:" ++ td.iceUfrag ∧
          equals ∉ ascii "ice-pwd:" ++ td.icePwd := by
        simp only [List.mem_append, not_or]
        exact ⟨⟨by simp [ascii, equals], hufrag.not_mem notMem_kBase64.1⟩,
          by simp [ascii, equals], hpwd.not_mem notMem_kBase64.1⟩
      have hmedia := parseMediaLine_attribute hequals.1
        (not_prefix_append (by simp [ascii]) (by simp [ascii])) s
      have hmedia' := parseMediaLine_attribute hequals.2
        (not_prefix_append (by simp [ascii]) (by simp [ascii]))
      show s.parseLines pton6 (transportLines td ++ rest) = _
      -- the user name, the password, and the lines that are skipped
      rw [transportLines_eq, List.cons_append, List.cons_append,
        parseLines_inSection hs hmedia (parseLine_iceUfrag hufrag.1
          (hufrag.not_mem notMem_kBase64.1) (hufrag.not_mem notMem_kBase64.2.1) _),
        parseLines_inSection ((setOfferSection_mid _ _ _).trans hs) (hmedia' _)
          (parseLine_icePwd hpwd.1 (hpwd.not_mem notMem_kBase64.1)
            (hpwd.not_mem notMem_kBase64.2.1) _),
        setOfferSection_set, offerSection_set, if_pos rfl, hsec,
        parseLines_offerInert fun line hline => (hinert line hline).1]
      rfl

/-- A section of an offer without streams. -/
structure PrintedContent (ntop6 : Vector UInt8 16 → Bytes) (d : Pc.SessionDescription)
    (content : Pc.MediaContentDescription) : Prop where
  codecs : content.codecs = codecsOf content.type
  sendStreams : content.sendStreams = []
  candidates : ∀ c ∈ content.candidates, IsHostCandidate ntop6 c
  transport : ∀ td ∈ d.getTransportInfo content.mid, PrintedTransport td

/-- The line that begins a section of an offer. -/
def offerLine (type : MediaType) : Bytes :=
  mediaLine type.mid (ascii "UDP/TLS/RTP/SAVPF") (codecsOf type)

/-- The lines of a section of an offer in the order they are printed. -/
theorem offerSectionLines_eq {d : Pc.SessionDescription} {content : Pc.MediaContentDescription}
    (h : PrintedContent ntop6 d content) :
    d.sectionLines ntop6 content =
      offerLine content.type :: (connectionLines ++ (content.candidates.map (candidateLine ntop6) ++
        (sectionTransport (d.getTransportInfo content.mid) ++
          attributeLines content.type content.direction content.rtcpMux))) := by
  unfold Pc.SessionDescription.sectionLines attributeLines connectionLines offerLine sectionTransport
  rw [h.codecs, h.sendStreams]
  cases d.getTransportInfo content.mid <;> simp [Pc.MediaContentDescription.mid, Pc.ssrcLines]

/-- No line of a section has a line feed, so the text of an offer splits into the lines it was
made of. -/
theorem lf_notMem_offerSection {d : Pc.SessionDescription} {content : Pc.MediaContentDescription}
    (h : PrintedContent ntop6 d content) : ∀ line ∈ d.sectionLines ntop6 content, lf ∉ line := by
  have hmedia : lf ∉ offerLine content.type := by
    cases content.type <;> decide +kernel
  rw [offerSectionLines_eq h]
  intro line hline
  simp only [List.mem_cons, List.mem_append] at hline
  -- the five parts of a section
  rcases hline with rfl | hline | hline | hline | hline
  · exact hmedia
  · exact (skipped_connectionLines line hline).2
  · obtain ⟨c, hc, rfl⟩ := List.mem_map.mp hline
    obtain ⟨value, hvalue, -, hlf⟩ := candidateLine_attribute (h.candidates c hc)
    rw [hvalue]
    simp only [List.mem_append, not_or]
    exact ⟨by simp [ascii, lf], by simp [ascii, lf], hlf⟩
  · cases htd : d.getTransportInfo content.mid with
    | none =>
        rw [htd] at hline
        exact absurd hline List.not_mem_nil
    | some td =>
        obtain ⟨hufrag, hpwd, -, -⟩ := h.transport td htd
        rw [htd, sectionTransport, transportLines_eq] at hline
        simp only [List.mem_cons] at hline
        rcases hline with rfl | rfl | hline
        · simp only [List.mem_append, not_or]
          exact ⟨by simp [ascii, lf], by simp [ascii, lf], hufrag.not_mem notMem_kBase64.2.2.2⟩
        · simp only [List.mem_append, not_or]
          exact ⟨by simp [ascii, lf], by simp [ascii, lf], hpwd.not_mem notMem_kBase64.2.2.2⟩
        · exact (skipped_fingerprintLines (h.transport td htd) line hline).2
  · exact (skipped_attributeLines _ _ _ line hline).2

/-! ### Sections -/

/-- The local objects when a section has been read. -/
def afterOffer (s : RemoteOffer) (type : MediaType) (sec : OfferSection) : RemoteOffer :=
  setOfferSection { s with contents := s.contents ++ [type], mid := type.mid } type sec

/-- The section that was read last is the current one. -/
@[simp] theorem afterOffer_mid (s : RemoteOffer) (type : MediaType) (sec : OfferSection) :
    (afterOffer s type sec).mid = type.mid :=
  setOfferSection_mid _ _ _

/-- Its local objects are what was read, and the other section is as before. -/
theorem offerSection_after (s : RemoteOffer) (type type' : MediaType) (sec : OfferSection) :
    offerSection (afterOffer s type sec) type' =
      if type' = type then sec else offerSection s type' := by
  unfold afterOffer
  rw [offerSection_set]
  cases type' <;> rfl

/-- What is read of a section later takes the place of what was read of it earlier. -/
@[simp] theorem setOfferSection_after (s : RemoteOffer) (type : MediaType) (sec sec' : OfferSection) :
    setOfferSection (afterOffer s type sec) type sec' = afterOffer s type sec' :=
  setOfferSection_set _ _ _ _

/-- An `m=` line enters its section, which has nothing but its name then. -/
theorem offerEnter_eq {s : RemoteOffer} {type : MediaType} (hs : offerSection s type = {}) :
    s.enter type.mid = afterOffer s type { td := { mid := type.mid } } := by
  cases type with
  | audio =>
      have haudio : s.audio = {} := hs
      unfold RemoteOffer.enter
      rw [if_pos (show MediaType.audio.mid = ascii "audio" from rfl), haudio]
      rfl
  | video =>
      have hvideo : s.video = {} := hs
      unfold RemoteOffer.enter
      rw [if_neg (show MediaType.video.mid ≠ ascii "audio" from mid_ne.symm),
        if_pos (show MediaType.video.mid = ascii "video" from rfl), hvideo]
      rfl

/-- The first line of a section enters it, and has nothing else in it. -/
theorem parseLines_offerLine {s : RemoteOffer} {type : MediaType} (hs : offerSection s type = {})
    (rest : List Bytes) : s.parseLines pton6 (offerLine type :: rest) =
      (afterOffer s type { td := { mid := type.mid } }).parseLines pton6 rest := by
  have hkeys : ∀ key ∈ offerKeys, ¬ key <:+: offerLine type := by
    cases type <;> decide +kernel
  have hfields : tokenize space [] (offerLine type) = (ascii "m=" ++ type.mid) :: ascii "9" ::
      ascii "UDP/TLS/RTP/SAVPF" :: (codecsOf type).map fun codec => decimal codec.id := by
    cases type <;> decide +kernel
  have hmid : substr (ascii "m=" ++ type.mid) 2 = some type.mid := by
    cases type <;> decide +kernel
  have hhead : ∃ b ∈ (offerLine type).head?, b ∈ ascii "m=" := by
    cases type <;> decide +kernel
  have hgroup : ¬ contains (ascii "a=group:BUNDLE") (offerLine type) = true :=
    fun hc => hkeys _ (by simp [offerKeys]) (contains_iff.mp hc)
  have hmedia : s.parseMediaLine (offerLine type) = .ok (s.enter type.mid) := by
    unfold RemoteOffer.parseMediaLine
    rw [if_neg hgroup, if_pos hhead, hfields]
    dsimp only
    rw [hmid]
  rw [RemoteOffer.parseLines, hmedia]
  dsimp only
  rw [parseSectionLine_of_inert hkeys, offerEnter_eq hs]

/-- A section of an offer is read, whatever comes behind it. -/
theorem parseLines_offerSection {d : Pc.SessionDescription} {content : Pc.MediaContentDescription}
    (h : PrintedContent ntop6 d content) {s : RemoteOffer}
    (hs : offerSection s content.type = {}) (rest : List Bytes) :
    ∃ candidates, List.Forall₂ SameCandidate content.candidates candidates ∧
      s.parseLines pton6 (d.sectionLines ntop6 content ++ rest) =
        (afterOffer s content.type
          { td := readTransport content.type (d.getTransportInfo content.mid),
            candidates }).parseLines pton6 rest := by
  obtain ⟨candidates, hsame, hcandidates⟩ := @parseLines_candidates pton6 _ content.type _ h.candidates
    (sectionTransport (d.getTransportInfo content.mid) ++
      (attributeLines content.type content.direction content.rtcpMux ++ rest))
    _ (afterOffer_mid s content.type { td := { mid := content.type.mid } })
  rw [offerSection_after, if_pos rfl, setOfferSection_after, List.nil_append] at hcandidates
  refine ⟨candidates, hsame, ?_⟩
  -- part by part, each one with the rest of the text behind it
  rw [offerSectionLines_eq h, List.cons_append, List.append_assoc, List.append_assoc,
    List.append_assoc, parseLines_offerLine hs,
    parseLines_offerInert fun line hline => (skipped_connectionLines line hline).1, hcandidates,
    parseLines_sectionTransport h.transport (afterOffer_mid _ _ _)
      ((offerSection_after _ _ _ _).trans (if_pos rfl)),
    setOfferSection_after,
    parseLines_offerInert fun line hline => (skipped_attributeLines _ _ _ line hline).1]

/-- Sections of different types are read one after the other. By induction on them, as each is
read into a section that is still empty. -/
theorem parseLines_offerSections {d : Pc.SessionDescription}
    (contents : List Pc.MediaContentDescription)
    (h : ∀ content ∈ contents, PrintedContent ntop6 d content) :
    ∀ s : RemoteOffer, (contents.map Pc.MediaContentDescription.type).Nodup →
      (∀ content ∈ contents, offerSection s content.type = {}) →
      ∃ s', s.parseLines pton6 (contents.flatMap (d.sectionLines ntop6)) = .ok s' ∧
        s'.contents = s.contents ++ contents.map Pc.MediaContentDescription.type ∧
        s'.contentGroups = s.contentGroups ∧
        (∀ type, type ∉ contents.map Pc.MediaContentDescription.type →
          offerSection s' type = offerSection s type) ∧
        ∀ content ∈ contents,
          (offerSection s' content.type).td =
              readTransport content.type (d.getTransportInfo content.mid) ∧
            List.Forall₂ SameCandidate content.candidates
              (offerSection s' content.type).candidates := by
  -- on the sections; a later one has another type, so it keeps what was read of the first
  induction contents with
  | nil => exact fun s _ _ => ⟨s, rfl, by simp, rfl, fun _ _ => rfl, by simp⟩
  | cons content contents ih =>
      intro s hnodup hs
      obtain ⟨hcontent, hcontents⟩ := List.forall_mem_cons.mp h
      obtain ⟨hfresh, hs⟩ := List.forall_mem_cons.mp hs
      rw [List.map_cons, List.nodup_cons] at hnodup
      obtain ⟨hnew, hnodup⟩ := hnodup
      have hother : ∀ c ∈ contents, c.type ≠ content.type :=
        fun c hc heq => hnew (List.mem_map.mpr ⟨c, hc, heq⟩)
      obtain ⟨candidates, hsame, hparse⟩ := @parseLines_offerSection pton6 _ _ _ hcontent _ hfresh
        (contents.flatMap (d.sectionLines ntop6))
      obtain ⟨s', hrest, hnames, hgroups, hkeep, hread⟩ := ih hcontents
        (afterOffer s content.type
          { td := readTransport content.type (d.getTransportInfo content.mid), candidates }) hnodup
        fun c hc => by rw [offerSection_after, if_neg (hother c hc), hs c hc]
      refine ⟨s', ?_, ?_, ?_, ?_, ?_⟩
      · rw [List.flatMap_cons, hparse, hrest]
      · rw [hnames]
        simp [afterOffer]
      · rw [hgroups]
        exact setOfferSection_contentGroups _ _ _
      · intro type htype
        rw [List.map_cons, List.mem_cons, not_or] at htype
        rw [hkeep type htype.2, offerSection_after, if_neg htype.1]
      · intro c hc
        rcases List.mem_cons.mp hc with rfl | hc
        · rw [hkeep c.type hnew, offerSection_after, if_pos rfl]
          exact ⟨rfl, hsame⟩
        · exact hread c hc

/-! ### Groups -/

/-- Names that are all different are added to a group one by one. -/
theorem foldl_addContentName {names : List Bytes} (h : names.Nodup) :
    ∀ g : ContentGroup, (∀ name ∈ names, name ∉ g.contentNames) →
      names.foldl ContentGroup.addContentName g =
        { g with contentNames := g.contentNames ++ names } := by
  induction names with
  | nil =>
      intro g _
      rw [List.append_nil]
      rfl
  | cons name names ih =>
      intro g hg
      obtain ⟨hname, hnames⟩ := List.forall_mem_cons.mp hg
      rw [List.nodup_cons] at h
      have hadd : g.addContentName name = { g with contentNames := g.contentNames ++ [name] } := by
        unfold ContentGroup.addContentName
        rw [if_neg (by simpa using hname)]
      rw [List.foldl_cons, hadd, ih h.2]
      · simp
      · intro other hother hmem
        rcases List.mem_append.mp hmem with hmem | hmem
        · exact hnames other hother hmem
        · exact h.1 (List.mem_singleton.mp hmem ▸ hother)

/-- The line of a group with names that differ. -/
def bundleLine (names : List Bytes) : Bytes :=
  ascii "a=group:BUNDLE" ++ names.flatMap fun name => ascii " " ++ name

/-- The line of the BUNDLE group gives a group with its names in order. -/
theorem parseMediaLine_bundle {names : List Bytes} (hne : names ≠ []) (hnodup : names.Nodup)
    (h : ∀ name ∈ names, space ∉ name ∧ name ≠ []) (s : RemoteOffer) :
    s.parseMediaLine (bundleLine names) =
      .ok { s with contentGroups := s.contentGroups ++ [⟨ascii "BUNDLE", names⟩] } := by
  have hblank : ascii " " = [space] := by simp [ascii, space]
  have hgroup : contains (ascii "a=group:BUNDLE") (bundleLine names) = true :=
    contains_iff.mpr (List.prefix_append _ _).isInfix
  -- the key is the first field, which is dropped
  have hfields : tokenize space [] (bundleLine names) = ascii "a=group:BUNDLE" :: names := by
    unfold bundleLine
    rw [hblank]
    exact tokenize_fields h (by simp [ascii, space]) (by simp [ascii])
  have hnames := foldl_addContentName hnodup ⟨ascii "BUNDLE", []⟩
    fun name _ hmem => absurd hmem List.not_mem_nil
  obtain ⟨name, names, rfl⟩ := List.exists_cons_of_ne_nil hne
  unfold RemoteOffer.parseMediaLine
  rw [if_pos hgroup, hfields]
  dsimp only
  rw [hnames, List.nil_append]

/-- In front of the sections a line is only looked at for groups and sections. -/
theorem parseSectionLine_of_noSection {s : RemoteOffer} (hs : s.mid = []) (line : Bytes) :
    s.parseSectionLine pton6 line = (s, true) := by
  unfold RemoteOffer.parseSectionLine
  rw [hs, if_neg (by simp [ascii]), if_neg (by simp [ascii])]

/-! ### The description -/

/-- An offer without streams that can be printed and read. -/
structure PrintedOffer (ntop6 : Vector UInt8 16 → Bytes) (d : Pc.SessionDescription) : Prop where
  types : (d.contents.map Pc.MediaContentDescription.type).Nodup
  contents : ∀ content ∈ d.contents, PrintedContent ntop6 d content
  groups : d.contentGroups = [] ∨ d.contents ≠ [] ∧
    d.contentGroups = [⟨ascii "BUNDLE", d.contents.map Pc.MediaContentDescription.mid⟩]
  transports : ∀ td ∈ d.transportInfos, d.getTransportInfo td.mid = some td ∧
    ∃ content ∈ d.contents, content.mid = td.mid

/-- The two sections have different names. -/
theorem mid_injective : Function.Injective MediaType.mid := by
  intro type type' h
  cases type <;> cases type'
  · rfl
  · exact absurd h mid_ne
  · exact absurd h.symm mid_ne
  · rfl

/-- A name of a section can be printed in a line: it has no blank and no line feed, and is not
empty. -/
theorem mid_printed (type : MediaType) : space ∉ type.mid ∧ lf ∉ type.mid ∧ type.mid ≠ [] := by
  cases type <;> simp [MediaType.mid, ascii, space, lf]

/-- The sections of an offer have different names. -/
theorem PrintedOffer.mids {d : Pc.SessionDescription} (h : PrintedOffer ntop6 d) :
    (d.contents.map Pc.MediaContentDescription.mid).Nodup := by
  have hmids : d.contents.map Pc.MediaContentDescription.mid =
      (d.contents.map Pc.MediaContentDescription.type).map MediaType.mid := by
    rw [List.map_map]
    rfl
  rw [hmids]
  exact h.types.map mid_injective

/-- The line of the group, if there is one. -/
theorem bundleLines_cases {d : Pc.SessionDescription} (h : PrintedOffer ntop6 d) :
    (d.contentGroups = [] ∧ d.bundleLines = []) ∨ d.contents ≠ [] ∧
      d.contentGroups = [⟨ascii "BUNDLE", d.contents.map Pc.MediaContentDescription.mid⟩] ∧
      d.bundleLines = [bundleLine (d.contents.map Pc.MediaContentDescription.mid)] := by
  unfold Pc.SessionDescription.bundleLines Pc.SessionDescription.getGroupByName
  rcases h.groups with hnone | ⟨hne, hgroup⟩
  · left
    rw [hnone]
    exact ⟨rfl, rfl⟩
  · right
    rw [hgroup]
    simp [hne, bundleLine]

/-- The lines in front of the sections leave the group. -/
theorem parseLines_offerPreamble {d : Pc.SessionDescription} (h : PrintedOffer ntop6 d)
    (rest : List Bytes) :
    RemoteOffer.parseLines pton6 {} (Pc.SessionDescription.versionLines ++ d.bundleLines ++
        [ascii "a=msid-semantic: WMS"] ++ rest) =
      RemoteOffer.parseLines pton6 { contentGroups := d.contentGroups } rest := by
  have hwms : ∀ line ∈ [ascii "a=msid-semantic: WMS"], OfferInert line :=
    List.forall_mem_singleton.mpr skipped_msidSemantic.1
  rw [List.append_assoc, List.append_assoc,
    parseLines_offerInert fun line hline => (skipped_versionLines line hline).1]
  rcases bundleLines_cases h with ⟨hnone, hlines⟩ | ⟨hne, hgroup, hlines⟩
  · rw [hnone, hlines, List.nil_append, parseLines_offerInert hwms]
  · have hnames : ∀ name ∈ d.contents.map Pc.MediaContentDescription.mid,
        space ∉ name ∧ name ≠ [] := by
      intro name hname
      obtain ⟨content, -, rfl⟩ := List.mem_map.mp hname
      exact ⟨(mid_printed content.type).1, (mid_printed content.type).2.2⟩
    have hmedia := parseMediaLine_bundle (by simpa using hne) h.mids hnames {}
    rw [hgroup, hlines, List.singleton_append, RemoteOffer.parseLines, hmedia]
    dsimp only
    rw [parseSectionLine_of_noSection rfl]
    exact parseLines_offerInert hwms rest _

/-- The text of an offer is taken apart into its lines. -/
theorem sdpFields_offer {d : Pc.SessionDescription} (h : PrintedOffer ntop6 d) :
    Pc.sdpFields (d.toString ntop6) = d.lines ntop6 := by
  refine sdpFields_printLines fun line hline => ?_
  rcases List.mem_append.mp hline with hline | hline
  · rcases List.mem_append.mp hline with hline | hline
    · rcases List.mem_append.mp hline with hline | hline
      · exact (skipped_versionLines line hline).2
      · rcases bundleLines_cases h with ⟨-, hlines⟩ | ⟨-, -, hlines⟩
        · rw [hlines] at hline
          exact absurd hline List.not_mem_nil
        · rw [hlines] at hline
          obtain rfl := List.mem_singleton.mp hline
          unfold bundleLine
          simp only [List.mem_append, List.mem_flatMap, not_or, not_exists, not_and]
          refine ⟨by simp [ascii, lf], ?_⟩
          intro name hname
          obtain ⟨content, -, rfl⟩ := List.mem_map.mp hname
          exact ⟨by simp [ascii, lf], (mid_printed content.type).2.1⟩
    · rw [List.mem_singleton.mp hline]
      exact skipped_msidSemantic.2
  · obtain ⟨content, hcontent, hline⟩ := List.mem_flatMap.mp hline
    exact lf_notMem_offerSection (h.contents content hcontent) line hline

/-- An offer is found again in what was read. -/
structure OfferRecovered (d : Pc.SessionDescription) (r : SessionDescription) : Prop where
  sections : r.contents.map MediaContentDescription.mid =
    d.contents.map Pc.MediaContentDescription.mid
  contentGroups : r.contentGroups = d.contentGroups
  credentials : ∀ td ∈ d.transportInfos, ∃ td', r.getTransportInfo td.mid = some td' ∧
    td'.iceUfrag = td.iceUfrag ∧ td'.icePwd = td.icePwd
  candidates : List.Forall₂
    (fun content content' => List.Forall₂ SameCandidate content.candidates content'.candidates)
    d.contents r.contents

/-- The section of a type in the description that is read. -/
def contentOf (s : RemoteOffer) : MediaType → MediaContentDescription
  | .audio => { audioContentDescription with candidates := s.audio.candidates }
  | .video => { videoContentDescription with candidates := s.video.candidates }

/-- The sections that were read, in the order of their `m=` lines. -/
theorem contents_offerDescription (s : RemoteOffer) :
    s.description.contents = s.contents.map (contentOf s) :=
  List.map_congr_left fun type _ => by cases type <;> rfl

/-- A transport that was read is found by the name of its section. -/
theorem getTransportInfo_offer {s : RemoteOffer} {type : MediaType}
    (haudio : s.audio.td.mid ∈ [[], ascii "audio"])
    (htype : (offerSection s type).td.mid = type.mid) :
    s.description.getTransportInfo type.mid = some (offerSection s type).td := by
  show [s.audio.td, s.video.td].find? (fun td => td.mid = type.mid) = _
  cases type with
  | audio =>
      have hmid : s.audio.td.mid = MediaType.audio.mid := htype
      exact List.find?_cons_of_pos (by simpa using hmid)
  | video =>
      have hmid : s.video.td.mid = MediaType.video.mid := htype
      have hother : s.audio.td.mid ≠ MediaType.video.mid := by
        intro heq
        rw [heq] at haudio
        simp [MediaType.mid, ascii] at haudio
      rw [List.find?_cons_of_neg (by simpa using hother)]
      exact List.find?_cons_of_pos (by simpa using hmid)

/-- The SDK reads such an offer and loses nothing. The lines in front of the sections give the
group, and each section gives its transport and its candidates. -/
theorem printedOffer_recovered {d : Pc.SessionDescription} (h : PrintedOffer ntop6 d)
    (remote : Signaling) :
    ∃ remote', remote.setRemoteSDP pton6 (d.toString ntop6) = .returns 0 remote' ∧
      ∃ r, remote'.remoteDesc = some r ∧ OfferRecovered d r := by
  obtain ⟨s, hparse, hcontents, hgroups, hkeep, hread⟩ :=
    @parseLines_offerSections pton6 _ d d.contents h.contents
      { contentGroups := d.contentGroups } h.types fun content _ => by cases content.type <;> rfl
  have hlines : RemoteOffer.parseLines pton6 {} (d.lines ntop6) = .ok s :=
    (parseLines_offerPreamble h _).trans hparse
  have hne : d.lines ntop6 ≠ [] := by
    unfold Pc.SessionDescription.lines Pc.SessionDescription.versionLines
    simp
  rw [List.nil_append] at hcontents
  -- the transport of the video section is found behind that of the audio section
  have haudio : s.audio.td.mid ∈ [[], ascii "audio"] := by
    by_cases hmem : MediaType.audio ∈ d.contents.map Pc.MediaContentDescription.type
    · obtain ⟨content, hcontent, htype⟩ := List.mem_map.mp hmem
      have htd := (hread content hcontent).1
      rw [htype] at htd
      have hmid : s.audio.td.mid = ascii "audio" := congrArg TransportDescription.mid htd
      simp [hmid]
    · have hsec : s.audio = {} := hkeep .audio hmem
      simp [hsec]
  unfold Signaling.setRemoteSDP
  rw [sdpFields_offer h, if_neg hne, hlines]
  -- the sections, the credentials and the candidates of the description
  refine ⟨_, rfl, s.description, rfl, ?_, hgroups, ?_, ?_⟩
  · rw [contents_offerDescription, hcontents, List.map_map, List.map_map]
    refine List.map_congr_left fun content _ => ?_
    show (contentOf s content.type).type.mid = content.type.mid
    cases content.type <;> rfl
  · intro td htd
    obtain ⟨hfound, content, hcontent, hmid⟩ := h.transports td htd
    have hsec := (hread content hcontent).1
    rw [hmid, hfound] at hsec
    refine ⟨(offerSection s content.type).td, ?_, ?_⟩
    · rw [← hmid]
      exact getTransportInfo_offer haudio (congrArg TransportDescription.mid hsec)
    · rw [hsec]
      exact ⟨rfl, rfl⟩
  · rw [contents_offerDescription, hcontents, List.map_map, List.forall₂_map_right_iff,
      List.forall₂_same]
    intro content hcontent
    have hcandidates := (hread content hcontent).2
    show List.Forall₂ SameCandidate content.candidates (contentOf s content.type).candidates
    cases htype : content.type <;> rw [htype] at hcandidates <;> exact hcandidates

end Xrtc.Proofs.Sdk
