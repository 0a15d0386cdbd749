import Xrtc.Go.Xrpc
import Xrtc.Server.Reply

/-!
# `Xrtc.Proofs.Server.ReplyFraming`: a reply of the worker arrives

The worker takes the length of a reply from the JSON text and prints the text with
`snprintf` into a place of `MAX_RES_BUF` bytes. A text of 4096 bytes or more is cut
there, and the length is not. The queued slice then has a NUL in the middle, and it
goes on behind the block that was allocated for it.

`framesReply_iff` is the exact bound: a reply is the header with the length of the
text and then the text, and the signaling server reads it back however it is split,
if and only if the text is shorter than 4096 bytes. `replySlice_of_lt` reads the
block back part by part, `replySlice_ne_of_le` compares one byte, and the reader's side is
`readFull_eq` and `unMarshal_reply`.
-/

set_option autoImplicit false

namespace Xrtc.Proofs.Server

open Xrtc.Lib
open Xrtc.Server

/-- The bytes are the header with the length of the text, and then the text. The
signaling server reads the log id of the header and the text from them. -/
structure FramesReply (reply header json : Bytes) : Prop where
  bytes : reply = header.take 32 ++ toLE 4 json.length ++ json
  read : ∀ chunks : Go.Reader, chunks.flatten = reply →
    ∃ response, Go.readResponse chunks = some response ∧
      response.header.logId = (XHead.ofBytes header).logId ∧ response.body = json

/-! ### The slice -/

/-- The size of a reply does not wrap around. -/
theorem size_eq_of_lt {n : Nat} (h : xheadSize + n < 2 ^ 32) :
    (UInt32.ofNat xheadSize + UInt32.ofNat n).toNat = xheadSize + n := by
  rw [← UInt32.ofNat_add, UInt32.toNat_ofNat']
  exact Nat.mod_eq_of_lt h

/-- The slice of a text that fits: the block read back part by part. -/
theorem replySlice_of_lt (mem : Memory) {header json : Bytes} (hheader : header.length = xheadSize)
    (hnul : 0 ∉ json) (hfits : json.length < maxResBuf) :
    replySlice mem header json = header.take 32 ++ toLE 4 json.length ++ json := by
  have hmax : maxResBuf = 4096 := rfl
  have hsize : xheadSize = 36 := rfl
  have hhead : (((mem.write 0 header).write 32 (toLE 4 json.length)).write xheadSize
      (json ++ [0])).read 0 32 = header.take 32 := by
    rw [Memory.read_write_of_disjoint _ (Or.inl (by omega)),
      Memory.read_write_of_disjoint _ (Or.inl (by omega)),
      Memory.read_write_take _ _ (by omega)]
  have hlen : (((mem.write 0 header).write 32 (toLE 4 json.length)).write xheadSize
      (json ++ [0])).read 32 4 = toLE 4 json.length := by
    have hself := (mem.write 0 header).read_write_self 32 (toLE 4 json.length)
    rw [toLE_length] at hself
    rw [Memory.read_write_of_disjoint _ (Or.inl (by omega)), hself]
  have hbody : (((mem.write 0 header).write 32 (toLE 4 json.length)).write xheadSize
      (json ++ [0])).read xheadSize json.length = json := by
    rw [Memory.read_write_take _ _ (by simp), List.take_left]
  show Memory.read _ 0 _ = _
  rw [Memory.snprintf_of_lt _ _ hnul hfits, size_eq_of_lt (by omega), hsize, Memory.read_add,
    show (36 : Nat) = 32 + 4 from rfl, Memory.read_add]
  simp only [Nat.zero_add]
  rw [hsize] at hhead hlen hbody
  rw [hhead, hlen, hbody]

/-- The slice of a text that is too long is not the frame: it is too short where the
size wraps around, and otherwise a NUL stands where the text has none. -/
theorem replySlice_ne_of_le (mem : Memory) {header json : Bytes}
    (hheader : header.length = xheadSize) (hnul : 0 ∉ json) (hlong : maxResBuf ≤ json.length) :
    replySlice mem header json ≠ header.take 32 ++ toLE 4 json.length ++ json := by
  have hmax : maxResBuf = 4095 + 1 := rfl
  have hsize : xheadSize = 36 := rfl
  have hfront : (header.take 32 ++ toLE 4 json.length).length = 36 := by
    rw [List.length_append, toLE_length, List.length_take]
    omega
  intro heq
  by_cases hwrap : xheadSize + json.length < 2 ^ 32
  · -- the place of the last byte that `snprintf` writes
    have hplace := congrArg (fun bytes => bytes[36 + 4095]?) heq
    simp only [replySlice, size_eq_of_lt hwrap] at hplace
    rw [Memory.read_getElem? _ (by omega), Nat.zero_add, hmax, hsize,
      Memory.snprintf_last _ _ hnul (by omega), List.getElem?_append_right (by omega), hfront,
      Nat.add_sub_cancel_left] at hplace
    exact hnul (List.mem_of_getElem? hplace.symm)
  · have hlen := congrArg List.length heq
    rw [List.length_append, hfront, replySlice, Memory.read_length] at hlen
    have hlt := (UInt32.ofNat xheadSize + UInt32.ofNat json.length).toNat_lt
    omega

/-! ### The reader -/

/-- `io.ReadFull` returns the first bytes of the chunks, and leaves the others. -/
theorem readFull_eq (n : Nat) (chunks : Go.Reader) (h : n ≤ chunks.flatten.length) :
    ∃ rest : Go.Reader, Go.readFull n chunks = some (chunks.flatten.take n, rest) ∧
      rest.flatten = chunks.flatten.drop n := by
  induction chunks generalizing n with
  | nil =>
      have hzero : n = 0 := by simpa using h
      subst hzero
      exact ⟨[], rfl, rfl⟩
  | cons chunk chunks ih =>
      rw [List.flatten_cons, List.length_append] at h
      rw [Go.readFull, List.flatten_cons]
      by_cases hchunk : n ≤ chunk.length
      · refine ⟨chunk.drop n :: chunks, ?_, ?_⟩
        · rw [if_pos hchunk, List.take_append_of_le_length hchunk]
        · rw [List.flatten_cons, List.drop_append_of_le_length hchunk]
      · obtain ⟨rest, hread, hrest⟩ := ih (n - chunk.length) (by omega)
        refine ⟨rest, ?_, ?_⟩
        · have htake : chunk.take n = chunk := List.take_of_length_le (by omega)
          rw [if_neg hchunk, hread, List.take_append, htake]
          rfl
        · have hdrop : chunk.drop n = [] := List.drop_eq_nil_of_le (by omega)
          rw [hrest, List.drop_append, hdrop, List.nil_append]

/-- A field of the first 32 bytes, after `body_len` has been set. -/
theorem littleEndian_reply {header : Bytes} (hheader : header.length = xheadSize) (bodyLen : Bytes)
    {offset len : Nat} (h : offset + len ≤ 32) :
    Go.littleEndian (header.take 32 ++ bodyLen) offset len
      = ofLE ((header.drop offset).take len) := by
  have hsize : xheadSize = 36 := rfl
  have hfront : offset + len ≤ (header.take 32).length := by rw [List.length_take]; omega
  have hslice := slice_append_left hfront (header.drop 32)
  rw [List.take_append_drop] at hslice
  show ofLE (slice _ offset len) = ofLE (slice header offset len)
  rw [slice_append_left hfront, hslice]

/-- What the signaling server makes of the header of a reply. -/
theorem unMarshal_reply {header : Bytes} (hheader : header.length = xheadSize) {n : Nat}
    (hn : n < 2 ^ 32) :
    ∃ h, Go.Header.unMarshal (header.take 32 ++ toLE 4 n) = some h ∧
      h.logId = (XHead.ofBytes header).logId ∧
      h.magicNum = (XHead.ofBytes header).magicNum ∧ h.bodyLen.toNat = n := by
  have hsize : xheadSize = 36 := rfl
  have hfront : (header.take 32).length = 32 := by rw [List.length_take]; omega
  have hlen : ¬ (header.take 32 ++ toLE 4 n).length < Go.headerSize := by
    rw [List.length_append, hfront, toLE_length, Go.headerSize]
    decide
  refine ⟨_, if_neg hlen, ?_, ?_, ?_⟩
  · show UInt32.ofNat (Go.littleEndian _ 4 4) = UInt32.ofNat _
    rw [littleEndian_reply hheader _ (by decide)]
  · show UInt32.ofNat (Go.littleEndian _ 24 4) = UInt32.ofNat _
    rw [littleEndian_reply hheader _ (by decide)]
  · show (UInt32.ofNat (ofLE (((header.take 32 ++ toLE 4 n).drop 32).take 4))).toNat = n
    have hdrop : (header.take 32 ++ toLE 4 n).drop 32 = toLE 4 n := List.drop_left' hfront
    rw [hdrop, List.take_of_length_le (by simp), ofLE_toLE hn, UInt32.toNat_ofNat']
    exact Nat.mod_eq_of_lt hn

/-- The signaling server reads back a header with its `body_len` and the bytes that
it announces. -/
theorem readResponse_reply {header json : Bytes} (hheader : header.length = xheadSize)
    (hmagic : (XHead.ofBytes header).magicNum = xheadMagicNum) (hlen : json.length < 2 ^ 32)
    {chunks : Go.Reader}
    (hchunks : chunks.flatten = header.take 32 ++ toLE 4 json.length ++ json) :
    ∃ response, Go.readResponse chunks = some response ∧
      response.header.logId = (XHead.ofBytes header).logId ∧ response.body = json := by
  have hfront : (header.take 32 ++ toLE 4 json.length).length = Go.headerSize := by
    have hsize : xheadSize = 36 := rfl
    rw [List.length_append, toLE_length, List.length_take, Go.headerSize]
    omega
  obtain ⟨h, hunMarshal, hlogId, hmagicNum, hbodyLen⟩ := unMarshal_reply hheader hlen
  obtain ⟨rest, hread, hrest⟩ := readFull_eq Go.headerSize chunks (by
    rw [hchunks, List.length_append, hfront]
    omega)
  rw [hchunks, List.take_left' hfront] at hread
  rw [hchunks, List.drop_left' hfront] at hrest
  obtain ⟨last, hbody, -⟩ := readFull_eq json.length rest (by rw [hrest])
  rw [hrest, List.take_length] at hbody
  have hheaderRead : Go.Header.read chunks = some (h, rest) := by
    rw [Go.Header.read, hread, Option.bind_some]
    simp only [hunMarshal, Option.map_some]
  have hmagicNum' : ¬ h.magicNum ≠ Go.headerMagicNum := by
    rw [hmagicNum, hmagic]
    exact fun hne => hne rfl
  refine ⟨{ header := h, body := json }, ?_, hlogId, rfl⟩
  rw [Go.readResponse, hheaderRead, Option.bind_some]
  simp only [if_neg hmagicNum', hbodyLen, hbody, Option.map_some]

/-! ### Both sides -/

/-- A reply is framed as the signaling server expects it if and only if its text is
shorter than `MAX_RES_BUF` bytes. This is for every header of a request, every text
without a NUL, and whatever the memory holds. -/
theorem framesReply_iff (mem : Memory) {header json : Bytes} (hheader : header.length = xheadSize)
    (hmagic : (XHead.ofBytes header).magicNum = xheadMagicNum) (hnul : 0 ∉ json) :
    FramesReply (replySlice mem header json) header json ↔ json.length < maxResBuf := by
  constructor
  · intro hframes
    by_contra hlong
    exact replySlice_ne_of_le mem hheader hnul (Nat.le_of_not_lt hlong) hframes.bytes
  · intro hfits
    have hbytes := replySlice_of_lt mem hheader hnul hfits
    have hmax : maxResBuf = 4096 := rfl
    refine ⟨hbytes, ?_⟩
    intro chunks hchunks
    exact readResponse_reply hheader hmagic (by omega) (hchunks.trans hbytes)

/-- The header of a request with the log id 7. -/
def requestHead : Bytes :=
  List.replicate 4 0 ++ [0x07, 0x00, 0x00, 0x00] ++ List.replicate 16 0 ++
    [0x02, 0x22, 0x20, 0xfb] ++ List.replicate 8 0

/-- The text of an offer reply whose offer is `n` letters. -/
def longOffer (n : Nat) : Bytes :=
  [0x7b, 0x22, 0x6f, 0x66, 0x66, 0x65, 0x72, 0x22, 0x3a, 0x22] ++ List.replicate n 0x76 ++
    [0x22, 0x7d]

/-- A text of 14 bytes. -/
theorem shortOffer_framed_iff :
    FramesReply (replySlice (fun _ => 0) requestHead (longOffer 2)) requestHead (longOffer 2) ↔
      (longOffer 2).length < maxResBuf :=
  framesReply_iff (fun _ => 0) (by decide) (by decide) (by decide)

/-- A text of 4108 bytes is not framed. -/
theorem longOffer_not_framed :
    ¬ FramesReply (replySlice (fun _ => 0) requestHead (longOffer 4096)) requestHead
      (longOffer 4096) := by
  have hnul : 0 ∉ longOffer 4096 := by
    intro hmem
    rw [longOffer, List.mem_append, List.mem_append, List.mem_replicate] at hmem
    revert hmem
    decide
  have hlong : maxResBuf ≤ (longOffer 4096).length := by
    rw [longOffer, List.length_append, List.length_append, List.length_replicate]
    decide
  intro hframes
  exact replySlice_ne_of_le (fun _ => 0) (by decide) hnul hlong hframes.bytes

end Xrtc.Proofs.Server
