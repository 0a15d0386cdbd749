import Xrtc.Pc.HostCandidate
import Xrtc.Proofs.Pc.AttributeLines
import Xrtc.Sdk.Signaling

/-!
# `Xrtc.Proofs.Sdk.CandidateLine`: a candidate on its way to the other side

The fields of a line of `build_candidates` are found again by `ParseCandidates`. A printed
number is read by `atoi` as long as it is an `int`, and an IPv4 address by `inet_pton_v4`,
one number after the other (`inetPtonV4_dotted`).
-/

set_option autoImplicit false

namespace Xrtc.Proofs.Sdk

open Xrtc.Base
open Xrtc.Lib
open Xrtc.Ice (ascii colon split IPAddress MessageDigest)
open Xrtc.Pc (candidateLine dotted hostAsURIString createIceCandidate getPriority
  iceTypePreferenceHost localPortType computeFoundation IceCandidateComponent getAttribute)
open Xrtc.Sdk
open Xrtc.Proofs.Base
open Xrtc.Proofs.Pc

/-! ### Numbers -/

/-- A printed number that is an `int`. -/
theorem atoi_decimal {n : Nat} (h : n < 2 ^ 31) : atoi (decimal n) = n := by
  obtain ⟨b, digits, hb, hdigit⟩ := decimal_eq_cons n
  have hspace : isSpace b = false := by
    unfold isDigit at hdigit
    unfold isSpace
    grind
  have hminus : b ≠ minus := ne_of_isDigit hdigit rfl
  have hplus : b ≠ 0x2b := ne_of_isDigit hdigit rfl
  have hdrop : (decimal n).dropWhile isSpace = decimal n := by
    rw [hb]
    exact List.dropWhile_cons_of_neg (by rw [hspace]; decide)
  have hhead : (decimal n).head? = some b := by rw [hb]; rfl
  have htake := takeWhile_decimal n [] rfl
  rw [List.append_nil] at htake
  unfold atoi
  dsimp only
  rw [cStr_of_not_mem (not_mem_decimal (by decide) n), hdrop, hhead]
  simp only [Option.some.injEq, hminus, hplus, or_self, if_false]
  rw [htake, ofDigits_decimal]
  unfold intMax
  omega

/-! ### Addresses -/

/-- A number is read, and the loop goes on behind the dot. -/
theorem inetPtonV4Loop_decimal {found : List UInt8} {n : Nat} (hn : n < 256)
    (hfound : found.length < 4) (rest : Bytes) :
    inetPtonV4Loop found (decimal n ++ 0x2e :: rest)
      = inetPtonV4Loop (found ++ [UInt8.ofNat n]) rest := by
  obtain ⟨b, digits, hb, hdigit⟩ := decimal_eq_cons n
  have htake := takeWhile_decimal n (0x2e :: rest) rfl
  have hdrop := dropWhile_decimal n (0x2e :: rest) rfl
  rw [hb, List.cons_append] at htake hdrop ⊢
  rw [inetPtonV4Loop, htake, hdrop, ← hb, ofDigits_decimal, if_neg (by simp [hdigit]),
    if_neg (by omega), if_neg (by simp), if_pos List.head?_cons]
  rfl

/-- The last number of an address, with three or fewer in front of it. -/
theorem inetPtonV4Loop_last {found : List UInt8} {n : Nat} (hn : n < 256)
    (hfound : found.length < 4) :
    inetPtonV4Loop found (decimal n) = some (found ++ [UInt8.ofNat n]) := by
  obtain ⟨b, digits, hb, hdigit⟩ := decimal_eq_cons n
  have htake := takeWhile_decimal n [] rfl
  have hdrop := dropWhile_decimal n [] rfl
  rw [List.append_nil, hb] at htake hdrop
  rw [hb, inetPtonV4Loop, htake, hdrop, ← hb, ofDigits_decimal, if_neg (by simp [hdigit]),
    if_neg (by omega), if_pos rfl]

/-- An address comes back from its four numbers. -/
theorem inetPtonV4_dotted (addr : UInt32) : inetPtonV4 (dotted addr) = some addr := by
  have hdot : ascii "." = [0x2e] := by simp [ascii]
  have hoctet : ∀ i, addr.toNat / 256 ^ i % 256 < 256 := fun i => Nat.mod_lt _ (by decide)
  have hloop : inetPtonV4Loop [] (dotted addr)
      = some [UInt8.ofNat (addr.toNat / 256 ^ 3 % 256), UInt8.ofNat (addr.toNat / 256 ^ 2 % 256),
          UInt8.ofNat (addr.toNat / 256 ^ 1 % 256), UInt8.ofNat (addr.toNat / 256 ^ 0 % 256)] := by
    unfold dotted
    rw [hdot]
    simp only [List.append_assoc, List.cons_append, List.nil_append]
    rw [inetPtonV4Loop_decimal (hoctet 3) (by simp), inetPtonV4Loop_decimal (hoctet 2) (by simp),
      inetPtonV4Loop_decimal (hoctet 1) (by simp), inetPtonV4Loop_last (hoctet 0) (by simp)]
    rfl
  have hbyte : ∀ i, (UInt8.ofNat (addr.toNat / 256 ^ i % 256)).toNat = addr.toNat / 256 ^ i % 256 :=
    fun i => by rw [UInt8.toNat_ofNat']; exact Nat.mod_eq_of_lt (hoctet i)
  unfold inetPtonV4
  rw [hloop]
  dsimp only
  rw [hbyte, hbyte, hbyte, hbyte, Option.some.injEq]
  have hlt := addr.toNat_lt
  have hsum : addr.toNat / 256 ^ 3 % 256 * 256 ^ 3 + addr.toNat / 256 ^ 2 % 256 * 256 ^ 2
      + addr.toNat / 256 ^ 1 % 256 * 256 + addr.toNat / 256 ^ 0 % 256 = addr.toNat := by
    omega
  rw [hsum, UInt32.ofNat_toNat]

/-- An address is made of digits and dots only. -/
theorem not_mem_dotted {b : UInt8} (hdigit : isDigit b = false) (hdot : b ≠ 0x2e) (addr : UInt32) :
    b ∉ dotted addr := by
  have hascii : ascii "." = [0x2e] := by simp [ascii]
  unfold dotted
  rw [hascii]
  simp only [List.mem_append, List.mem_singleton, not_or]
  exact ⟨⟨⟨⟨⟨⟨not_mem_decimal hdigit _, hdot⟩, not_mem_decimal hdigit _⟩, hdot⟩,
    not_mem_decimal hdigit _⟩, hdot⟩, not_mem_decimal hdigit _⟩

/-- It is not empty. -/
theorem dotted_ne_nil (addr : UInt32) : dotted addr ≠ [] := by
  unfold dotted
  simp [decimal_ne_nil]

/-- A host name that is an address is taken as that address, before any lookup. -/
theorem ofHostname_dotted (pton6 : Bytes → Option (Vector UInt8 16)) (addr : UInt32) (port : Int) :
    (SocketAddress.ofHostname pton6 (dotted addr) port).ip = .v4 addr := by
  unfold SocketAddress.ofHostname ipFromString
  rw [cStr_of_not_mem (not_mem_dotted (by decide) (by decide) addr), inetPtonV4_dotted]

/-! ### The line -/

/-- The same candidate on both sides. -/
def SameCandidate (c : Pc.Candidate) (c' : Candidate) : Prop :=
  c'.foundation = c.foundation ∧ c'.component = c.component ∧ c'.protocol = c.protocol ∧
    c'.priority = c.priority ∧ c'.address.ip = c.address ∧ c'.port = c.port ∧ c'.type = c.type

/-- A candidate of `create_ice_candidate`. -/
def IsHostCandidate (ntop6 : Vector UInt8 16 → Bytes) (c : Pc.Candidate) : Prop :=
  ∃ digest component ip port, c = createIceCandidate digest ntop6 component ip port

/-- The priority of a host candidate is positive as an `int`. -/
theorem getPriority_lt (component : IceCandidateComponent) :
    (getPriority iceTypePreferenceHost 0 0 component).toNat < 2 ^ 31 := by
  cases component <;> decide

/-- The value of the line of a candidate. -/
def candidateFields (c : Pc.Candidate) (ip : UInt32) : List Bytes :=
  [decimal c.component, c.protocol, decimal c.priority.toNat, dotted ip, decimal c.port, ascii "typ",
    c.type]

/-- A candidate line is its fields, with single blanks between them. -/
theorem candidateLine_eq (ntop6 : Vector UInt8 16 → Bytes) {c : Pc.Candidate} {ip : UInt32}
    (haddress : c.address = .v4 ip) :
    candidateLine ntop6 c = ascii "a=candidate:" ++
      (c.foundation ++ (candidateFields c ip).flatMap fun f => space :: f) := by
  have hblank : ascii " " = [space] := by simp [ascii, space]
  have htyp : ascii " typ " = [space] ++ ascii "typ" ++ [space] := by simp [ascii, space]
  unfold candidateLine candidateFields
  rw [haddress, hblank, htyp]
  simp [hostAsURIString]

/-- The fields that a host candidate is printed with. -/
theorem hostCandidate_fields {ntop6 : Vector UInt8 16 → Bytes} {c : Pc.Candidate}
    (h : IsHostCandidate ntop6 c) :
    ∃ (ip : UInt32) (f : UInt32), c.address = .v4 ip ∧ c.foundation = decimal f.toNat ∧
      c.component < 2 ^ 31 ∧ c.protocol = ascii "udp" ∧ c.priority.toNat < 2 ^ 31 ∧
      c.port < 2 ^ 31 ∧ c.type = ascii "host" := by
  obtain ⟨digest, component, ip, port, rfl⟩ := h
  refine ⟨ip, _, rfl, rfl, ?_, rfl, getPriority_lt component, ?_, rfl⟩
  · cases component
    · show 1 < 2 ^ 31
      decide
    · show 2 < 2 ^ 31
      decide
  · have hport := port.toNat_lt
    show port.toNat < 2 ^ 31
    omega

/-- A byte that is no digit, and in none of the fixed words, is in no field. -/
theorem not_mem_candidateFields {b : UInt8} (hdigit : isDigit b = false)
    (hchars : b ∉ ascii "udptyphost.") {ntop6 : Vector UInt8 16 → Bytes} {c : Pc.Candidate}
    (h : IsHostCandidate ntop6 c) (ip : UInt32) :
    b ∉ c.foundation ∧ ∀ f ∈ candidateFields c ip, b ∉ f := by
  obtain ⟨ip', f, -, hfoundation, -, hprotocol, -, -, htype⟩ := hostCandidate_fields h
  have hascii : ascii "udptyphost." = ascii "udp" ++ ascii "typ" ++ ascii "host" ++ [0x2e] := by
    simp [ascii]
  rw [hascii] at hchars
  simp only [List.mem_append, not_or] at hchars
  obtain ⟨⟨⟨hudp, htyp⟩, hhost⟩, hdot⟩ := hchars
  unfold candidateFields
  rw [hfoundation, hprotocol, htype]
  simp only [List.forall_mem_cons]
  exact ⟨not_mem_decimal hdigit _, not_mem_decimal hdigit _, hudp, not_mem_decimal hdigit _,
    not_mem_dotted hdigit (fun heq => hdot (List.mem_singleton.mpr heq)) _,
    not_mem_decimal hdigit _, htyp, hhost, fun f hf => absurd hf List.not_mem_nil⟩

/-- No field is empty, so the reader finds as many as there are. -/
theorem candidateFields_ne_nil {ntop6 : Vector UInt8 16 → Bytes} {c : Pc.Candidate}
    (h : IsHostCandidate ntop6 c) (ip : UInt32) :
    c.foundation ≠ [] ∧ ∀ f ∈ candidateFields c ip, f ≠ [] := by
  obtain ⟨ip', f, -, hfoundation, -, hprotocol, -, -, htype⟩ := hostCandidate_fields h
  unfold candidateFields
  rw [hfoundation, hprotocol, htype]
  simp only [List.forall_mem_cons]
  exact ⟨decimal_ne_nil _, decimal_ne_nil _, by simp [ascii], decimal_ne_nil _, dotted_ne_nil _,
    decimal_ne_nil _, by simp [ascii], by simp [ascii], fun f hf => absurd hf List.not_mem_nil⟩

/-- What is behind the name in the line of a candidate. -/
def candidateValue (c : Pc.Candidate) (ip : UInt32) : Bytes :=
  c.foundation ++ (candidateFields c ip).flatMap fun f => space :: f

/-- Such a byte is not in the line either, unless it is the blank. -/
theorem not_mem_candidateValue {b : UInt8} (hdigit : isDigit b = false)
    (hchars : b ∉ ascii "udptyphost.") (hspace : b ≠ space) {ntop6 : Vector UInt8 16 → Bytes}
    {c : Pc.Candidate} (h : IsHostCandidate ntop6 c) (ip : UInt32) : b ∉ candidateValue c ip := by
  obtain ⟨hfoundation, hfields⟩ := not_mem_candidateFields hdigit hchars h ip
  unfold candidateValue
  simp only [List.mem_append, List.mem_flatMap, List.mem_cons, not_or, not_exists, not_and]
  exact ⟨hfoundation, fun f hf => ⟨hspace, hfields f hf⟩⟩

/-- The line of a host candidate gives the candidate back: its eight fields come apart at the
blanks, and each of them is read as what was printed. -/
theorem parseCandidates_candidateLine (ntop6 : Vector UInt8 16 → Bytes)
    (pton6 : Bytes → Option (Vector UInt8 16)) {c : Pc.Candidate} (h : IsHostCandidate ntop6 c) :
    ∃ c', parseCandidates pton6 (candidateLine ntop6 c) = some [c'] ∧ SameCandidate c c' := by
  obtain ⟨ip, f, hip, -, hcomponent, -, hpriority, hport, -⟩ := hostCandidate_fields h
  have hkey : ascii "a=candidate:" = ascii "a=candidate" ++ [colon] := by simp [ascii, colon]
  obtain ⟨hspace, hfields⟩ :=
    not_mem_candidateFields (b := space) (by decide) (by simp [ascii, space]) h ip
  have hattr : getAttribute (candidateLine ntop6 c) = candidateValue c ip := by
    rw [candidateLine_eq ntop6 hip, hkey, List.append_assoc, List.singleton_append]
    refine getAttribute_append (by simp [ascii, colon]) (by simp [ascii])
      (not_mem_candidateValue (by decide) (by simp [ascii, colon]) (by decide) h ip) ?_
    exact List.append_ne_nil_of_left_ne_nil (candidateFields_ne_nil h ip).1 _
  have hcontains : contains (ascii "a=candidate:") (candidateLine ntop6 c) = true := by
    rw [contains_iff, candidateLine_eq ntop6 hip]
    exact (List.prefix_append _ _).isInfix
  -- all fields are there, and none has a blank in it
  have htokens : tokenize space [] (candidateValue c ip) = c.foundation :: candidateFields c ip :=
    tokenize_fields (fun f hf => ⟨hfields f hf, (candidateFields_ne_nil h ip).2 f hf⟩) hspace
      (candidateFields_ne_nil h ip).1
  have hvalue : candidateValue c ip ≠ [] :=
    List.append_ne_nil_of_left_ne_nil (candidateFields_ne_nil h ip).1 _
  unfold parseCandidates
  rw [if_pos hcontains, hattr]
  dsimp only
  rw [if_neg hvalue, htokens]
  refine ⟨_, rfl, rfl, atoi_decimal hcomponent, rfl, ?_, ?_, atoi_decimal hport, rfl⟩
  · show UInt32.ofInt (atoi (decimal c.priority.toNat)) = c.priority
    have hmod : ((c.priority.toNat : Int) % 2 ^ 32).toNat = c.priority.toNat := by omega
    rw [atoi_decimal hpriority, UInt32.ofInt, hmod, UInt32.ofNat_toNat]
  · rw [hip]
    exact ofHostname_dotted pton6 ip _

end Xrtc.Proofs.Sdk
