import Xrtc.Proofs.Sdk.AnswerParsed
import Xrtc.Proofs.Sdk.OfferParsed

/-!
# `Xrtc.Proofs.Stream.TransportLines`: the lines of a transport, one by one

The server reads the fingerprint of its own certificate as it has printed it
(`createUnique_printed`): two digits are a byte again, and the algorithm is one that can be
compared (`PrintedFingerprint`). `lineEffect_transport` says what is read of the lines of a
transport. The role is in a line that is inert (`setupLines_inert`).
-/

set_option autoImplicit false

namespace Xrtc.Proofs.Stream

open Xrtc.Base
open Xrtc.Lib
open Xrtc.Ice (ascii colon)
open Xrtc.Pc
open Xrtc.Proofs.Base
open Xrtc.Proofs.Pc
open Xrtc.Proofs.Sdk (IsRandomString notMem_kBase64 not_mem_getRfc4572Fingerprint)

/-! ### Fingerprints -/

/-- A half of a byte comes back from its digit. -/
theorem hexDecode_hexDigit {val : UInt8} (h : val < 16) : hexDecode (hexDigit val) = some val := by
  have hlt : val.toNat < 16 := h
  rw [← UInt8.ofNat_toNat (x := val)]
  interval_cases val.toNat <;> decide +kernel

/-- A byte is put together from its halves. -/
theorem halves_eq (b : UInt8) : (b >>> 4) <<< 4 ||| (b &&& 0xf) = b := by
  apply UInt8.eq_of_toBitVec_eq
  ext i hi
  simp only [UInt8.toBitVec_or, UInt8.toBitVec_and, UInt8.toBitVec_shiftLeft,
    UInt8.toBitVec_shiftRight]
  interval_cases i <;> simp

/-- Both halves of a byte are below 16. -/
theorem halves_lt (b : UInt8) : b >>> 4 < 16 ∧ b &&& 0xf < 16 := by
  have hb := b.toNat_lt
  constructor
  · show (b >>> 4).toNat < 16
    simp [Nat.shiftRight_eq_div_pow]
    omega
  · show (b &&& 0xf).toNat < 16
    rw [UInt8.toNat_and]
    exact Nat.lt_of_le_of_lt Nat.and_le_right (by decide)

/-- The two digits of a byte. -/
def hexByte (b : UInt8) : Bytes := [hexDigit (b >>> 4), hexDigit (b &&& 0xf)]

/-- The text of a digest with at least one byte. -/
theorem fingerprint_cons (algorithm : Bytes) (b : UInt8) (digest : Bytes) :
    (SSLFingerprint.getRfc4572Fingerprint ⟨algorithm, b :: digest⟩)
      = hexByte b ++ digest.flatMap fun b => colon :: hexByte b := by
  have hcolon : ascii ":" = [colon] := by simp [ascii, colon]
  unfold SSLFingerprint.getRfc4572Fingerprint
  rw [List.flatMap_cons, hcolon]
  rfl

/-- A digest printed with colons between its bytes is decoded again, by induction on the rest of
it. -/
theorem hexDecodeLoop_hexByte (b : UInt8) (digest : Bytes) :
    hexDecodeLoop colon (hexByte b ++ digest.flatMap fun b => colon :: hexByte b)
      = some (b :: digest) := by
  have hbyte : ∀ b : UInt8, hexDecode (hexDigit (b >>> 4)) = some (b >>> 4) ∧
      hexDecode (hexDigit (b &&& 0xf)) = some (b &&& 0xf) :=
    fun b => ⟨hexDecode_hexDigit (halves_lt b).1, hexDecode_hexDigit (halves_lt b).2⟩
  -- on the bytes behind the first one
  induction digest generalizing b with
  | nil =>
      show hexDecodeLoop colon [hexDigit (b >>> 4), hexDigit (b &&& 0xf)] = _
      rw [hexDecodeLoop, (hbyte b).1, (hbyte b).2]
      simp [halves_eq]
  | cons b' digest ih =>
      have hrest : hexDecodeLoop colon (hexDigit (b' >>> 4) :: hexDigit (b' &&& 0xf) ::
          digest.flatMap fun b => colon :: hexByte b) = some (b' :: digest) := ih b'
      rw [List.flatMap_cons]
      show hexDecodeLoop colon (hexDigit (b >>> 4) :: hexDigit (b &&& 0xf) :: colon ::
        hexDigit (b' >>> 4) :: (hexDigit (b' &&& 0xf) :: digest.flatMap fun b => colon :: hexByte b))
          = _
      rw [hexDecodeLoop, (hbyte b).1, (hbyte b).2]
      · simp [hrest, halves_eq]
      · intro hnil
        cases hnil

/-- The certificate of a server has a digest that can be compared. -/
structure PrintedFingerprint (fp : SSLFingerprint) : Prop where
  algorithm : isFips180DigestAlgorithm fp.algorithm = true
  nonempty : fp.digest ≠ []
  length : fp.digest.length ≤ kMaxSize

/-- A fingerprint comes back from its two fields. The algorithm is known by its name, and the
digest has the bytes that were printed. -/
theorem createUnique_printed {fp : SSLFingerprint} (h : PrintedFingerprint fp) :
    SSLFingerprint.createUniqueFromRfc4572 (fp.algorithm.map toLower) fp.getRfc4572Fingerprint
      = some fp := by
  obtain ⟨algorithm, digest⟩ := fp
  obtain ⟨halgorithm, hne, hlen⟩ := h
  dsimp only at halgorithm hne hlen
  obtain ⟨b, digest, rfl⟩ := List.exists_cons_of_ne_nil hne
  have hlower : algorithm.map toLower = algorithm := by
    have hall : ∀ alg ∈ [ascii "sha-1", ascii "sha-224", ascii "sha-256", ascii "sha-384",
        ascii "sha-512"], alg.map toLower = alg := by
      decide +kernel
    exact hall algorithm (List.contains_iff_mem.mp halgorithm)
  have htext : (hexByte b ++ digest.flatMap fun b => colon :: hexByte b).length
      = 2 + 3 * digest.length := by
    rw [List.length_append, List.length_flatMap]
    have hthree : (digest.map fun b => (colon :: hexByte b).length) = digest.map fun _ => 3 := rfl
    rw [hthree, List.map_const', List.sum_replicate_nat, Nat.mul_comm]
    rfl
  rw [List.length_cons] at hlen
  unfold SSLFingerprint.createUniqueFromRfc4572
  rw [hlower, fingerprint_cons, if_neg]
  · unfold hexDecodeWithDelimiter
    rw [hexDecodeLoop_hexByte, htext, if_neg (by omega)]
    simp
  · simp [halgorithm, hexByte]

/-! ### The lines of a transport -/

/-- A transport that an offer can be read with. -/
structure ReadTransport (td : TransportDescription) : Prop where
  iceUfrag : IsRandomString td.iceUfrag
  icePwd : IsRandomString td.icePwd
  connectionRole : td.connectionRole = .actpass
  fingerprint : ∀ fp ∈ td.identityFingerprint, PrintedFingerprint fp

/-- The line of a fingerprint. -/
def fingerprintLine (fp : SSLFingerprint) : Bytes :=
  ascii "a=fingerprint:" ++ fp.algorithm ++ ascii " " ++ fp.getRfc4572Fingerprint

/-- No name of an algorithm has one of the separators inside. -/
theorem algorithm_chars : ∀ alg ∈ [ascii "sha-1", ascii "sha-224", ascii "sha-256",
    ascii "sha-384", ascii "sha-512"], equals ∉ alg ∧ space ∉ alg ∧ lf ∉ alg := by
  decide +kernel

/-- A printed digest has none either: hexadecimal digits and colons only. -/
theorem notMem_fingerprint (fp : SSLFingerprint) : equals ∉ fp.getRfc4572Fingerprint ∧
    space ∉ fp.getRfc4572Fingerprint ∧ lf ∉ fp.getRfc4572Fingerprint :=
  ⟨not_mem_getRfc4572Fingerprint (by simp [ascii, equals]) (by simp [ascii, equals]) fp,
    not_mem_getRfc4572Fingerprint (by simp [ascii, space]) (by simp [ascii, space]) fp,
    not_mem_getRfc4572Fingerprint (by simp [ascii, lf]) (by simp [ascii, lf]) fp⟩

/-- The fingerprint is read: the line has two fields, of which the first ends with the algorithm
and the second is the digest. -/
theorem lineEffect_fingerprint (type : MediaType) {fp : SSLFingerprint}
    (h : PrintedFingerprint fp) :
    lineEffect type.mid (fingerprintLine fp)
      = .ok { current := some (type, { transport := .fingerprint fp }) } := by
  have hblank : ascii " " = [space] := by simp [ascii, space]
  obtain ⟨halg, halg', -⟩ := algorithm_chars _ (List.contains_iff_mem.mp h.algorithm)
  obtain ⟨htext, htext', -⟩ := notMem_fingerprint fp
  have hline : fingerprintLine fp
      = ascii "a=" ++ (ascii "fingerprint:" ++ fp.algorithm ++ space :: fp.getRfc4572Fingerprint) := by
    have hkey : ascii "a=fingerprint:" = ascii "a=" ++ ascii "fingerprint:" := by simp [ascii]
    unfold fingerprintLine
    rw [hkey, hblank]
    simp only [List.append_assoc, List.singleton_append]
  have hequals : equals ∉ ascii "fingerprint:" ++ fp.algorithm ++
      space :: fp.getRfc4572Fingerprint := by
    simp only [List.mem_append, List.mem_cons, not_or]
    exact ⟨⟨by simp [ascii, equals], halg⟩, by decide, htext⟩
  have hstart : ∀ {key : Bytes}, ¬ key <+: ascii "fingerprint:" → ¬ ascii "fingerprint:" <+: key →
      ¬ key <+: ascii "fingerprint:" ++ fp.algorithm ++ space :: fp.getRfc4572Fingerprint := by
    intro key h h'
    rw [List.append_assoc]
    exact not_prefix_append h h'
  rw [hline]
  refine lineEffect_attribute type hequals ?_
    (videoGroupEffect_of_none (ssrcGroupEffect_attribute hequals
      (hstart (by simp [ascii]) (by simp [ascii]))))
    (ssrcEffect_attribute hequals (hstart (by simp [ascii]) (by simp [ascii])))
  -- the algorithm stands behind the name of the attribute, and the digest behind a blank
  let item : Bytes := ascii "a=fingerprint:" ++ fp.algorithm
  have hitem : ascii "a=" ++ (ascii "fingerprint:" ++ fp.algorithm ++
      space :: fp.getRfc4572Fingerprint) = item ++ space :: fp.getRfc4572Fingerprint := by
    simp [item, ascii]
  have hspace : space ∉ item := by
    rw [List.mem_append, not_or]
    exact ⟨by simp [ascii, space], halg'⟩
  have hfields : tokenize space [] (item ++ space :: fp.getRfc4572Fingerprint)
      = [item, fp.getRfc4572Fingerprint] := by
    rw [tokenize_append hspace (by simp [item, ascii]), tokenize_of_not_mem htext']
    obtain ⟨b, digest, hdigest⟩ := List.exists_cons_of_ne_nil h.nonempty
    have hcons := fingerprint_cons fp.algorithm b digest
    rw [← hdigest] at hcons
    rw [hcons]
    simp [hexByte]
  have hsubstr : substr item 14 = some fp.algorithm := by
    have hlen : (ascii "a=fingerprint:").length = 14 := by simp [ascii]
    unfold substr
    rw [if_neg (by rw [List.length_append, hlen]; omega), ← hlen, List.drop_left]
  unfold transportEffect
  rw [if_neg ((contains_attribute iceUfragKey hequals).not.mpr
      (hstart (by simp [ascii]) (by simp [ascii]))),
    if_neg ((contains_attribute icePwdKey hequals).not.mpr
      (hstart (by simp [ascii]) (by simp [ascii]))),
    if_pos ((contains_attribute fingerprintKey hequals).mpr ?_), hitem, hfields]
  · dsimp only
    rw [hsubstr]
    dsimp only [orElse, bind, Except.bind]
    rw [createUnique_printed h]
    rfl
  · have hname : ascii "fingerprint" <+: ascii "fingerprint:" := by simp [ascii]
    rw [List.append_assoc]
    exact hname.trans (List.prefix_append _ _)

/-- The lines of a transport, with what is read of them. The role is not read. -/
def transportEffects (td : TransportDescription) : List (Bytes × SectionEffect) :=
  [(ascii "a=ice-ufrag:" ++ td.iceUfrag, { transport := .iceUfrag td.iceUfrag }),
    (ascii "a=ice-pwd:" ++ td.icePwd, { transport := .icePwd td.icePwd })] ++
    match td.identityFingerprint with
    | none => []
    | some fp => [(fingerprintLine fp, { transport := .fingerprint fp })]

/-- The line behind a fingerprint. -/
def setupLines (td : TransportDescription) : List Bytes :=
  match td.identityFingerprint with
  | none => []
  | some _ => [ascii "a=setup:" ++ td.connectionRole.toString]

/-- The lines of a transport: those that are read, and behind them the connection role. -/
theorem transportLines_split (td : TransportDescription) :
    transportLines td = (transportEffects td).map Prod.fst ++ setupLines td := by
  unfold transportLines transportEffects setupLines
  cases td.identityFingerprint <;> rfl

/-- The reader passes over the connection role. -/
theorem setupLines_inert {td : TransportDescription} (h : ReadTransport td) :
    ∀ line ∈ setupLines td, Inert line ∧ lf ∉ line := by
  have hsetup : Inert (ascii "a=setup:" ++ ConnectionRole.actpass.toString) ∧
      lf ∉ ascii "a=setup:" ++ ConnectionRole.actpass.toString := by
    decide +kernel
  unfold setupLines
  cases td.identityFingerprint with
  | none => exact fun line hline => absurd hline List.not_mem_nil
  | some fp =>
      rw [h.connectionRole]
      exact List.forall_mem_singleton.mpr hsetup

/-- What holds of the lines of a transport. -/
theorem forall_transportEffects {td : TransportDescription}
    {P : Bytes × SectionEffect → Prop}
    (hufrag : P (ascii "a=ice-ufrag:" ++ td.iceUfrag, { transport := .iceUfrag td.iceUfrag }))
    (hpwd : P (ascii "a=ice-pwd:" ++ td.icePwd, { transport := .icePwd td.icePwd }))
    (hfingerprint : ∀ fp ∈ td.identityFingerprint,
      P (fingerprintLine fp, { transport := .fingerprint fp })) :
    ∀ x ∈ transportEffects td, P x := by
  unfold transportEffects
  intro x hx
  simp only [List.mem_append, List.mem_cons, List.not_mem_nil, or_false] at hx
  rcases hx with (rfl | rfl) | hx
  · exact hufrag
  · exact hpwd
  · cases hfp : td.identityFingerprint with
    | none =>
        rw [hfp] at hx
        exact absurd hx List.not_mem_nil
    | some fp =>
        rw [hfp] at hx
        rw [List.mem_singleton.mp hx]
        exact hfingerprint fp hfp

/-- Each of the other lines sets its field of the transport. -/
theorem lineEffect_transport (type : MediaType) {td : TransportDescription}
    (h : ReadTransport td) : ∀ x ∈ transportEffects td,
      lineEffect type.mid x.1 = .ok { current := some (type, x.2) } :=
  forall_transportEffects
    (lineEffect_iceUfrag type h.iceUfrag.1 (h.iceUfrag.not_mem notMem_kBase64.1)
      (h.iceUfrag.not_mem notMem_kBase64.2.1))
    (lineEffect_icePwd type h.icePwd.1 (h.icePwd.not_mem notMem_kBase64.1)
      (h.icePwd.not_mem notMem_kBase64.2.1))
    fun fp hfp => lineEffect_fingerprint type (h.fingerprint fp hfp)

/-- None of them has a line end inside. -/
theorem lf_notMem_transport {td : TransportDescription} (h : ReadTransport td) :
    ∀ x ∈ transportEffects td, lf ∉ x.1 := by
  refine forall_transportEffects ?_ ?_ ?_
  · rw [List.mem_append, not_or]
    exact ⟨by simp [ascii, lf], h.iceUfrag.not_mem notMem_kBase64.2.2.2⟩
  · rw [List.mem_append, not_or]
    exact ⟨by simp [ascii, lf], h.icePwd.not_mem notMem_kBase64.2.2.2⟩
  · intro fp hfp
    have halg := algorithm_chars _ (List.contains_iff_mem.mp (h.fingerprint fp hfp).algorithm)
    simp only [fingerprintLine, List.mem_append, not_or]
    exact ⟨⟨⟨by simp [ascii, lf], halg.2.2⟩, by simp [ascii, lf]⟩, (notMem_fingerprint fp).2.2⟩

/-- The transport as it is read: all but the role. -/
def readTransport (td : TransportDescription) : TransportDescription :=
  { td with connectionRole := .none }

/-- All of them together give the transport, but for the role. -/
theorem foldl_transportEffects {type : MediaType} {td : TransportDescription}
    (hmid : td.mid = type.mid) :
    (transportEffects td).foldl (fun sec x => applySection sec x.2) { td := { mid := type.mid } }
      = { td := readTransport td } := by
  obtain ⟨mid, iceUfrag, icePwd, identityFingerprint, connectionRole⟩ := td
  cases hmid
  cases identityFingerprint <;> rfl

end Xrtc.Proofs.Stream
