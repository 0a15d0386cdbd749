import Xrtc.Go.Xrpc
import Xrtc.Proofs.Server.SignalingWorker

/-!
# `Xrtc.Proofs.Server.RequestFraming`: a request of the signaling server arrives

The signaling server writes a header that it marshals field by field, and the
worker lays a packed struct over the first 36 bytes of its buffer. Both sides
restate the layout, and the worker asks for `bytes_expected` bytes at every read,
which is the whole body even when a part of it is there already.

`frame_processed_once` puts the two sides together: the bytes of `Request.Write`,
in whatever pieces they arrive, make the worker call `_process_request` once, with
the fields and the body that were sent. `marshal_sameHeader` compares the two
layouts, and the run lemma `serve_of_frame` says what a connection dispatches whose
stream is one frame. It is an induction on the reads over the `Waiting` states.
-/

set_option autoImplicit false

namespace Xrtc.Proofs.Server

open Xrtc.Lib
open Xrtc.Server
open Xrtc.Server.TcpConnection

/-! ### The two layouts -/

/-- The struct that the worker reads has the fields of the header that was sent. -/
structure SameHeader (x : XHead) (h : Go.Header) : Prop where
  id : x.id = h.id
  version : x.version = h.version
  logId : x.logId = h.logId
  provider : x.provider = h.provider.toList
  magicNum : x.magicNum = h.magicNum
  reserved : x.reserved = h.reserved
  bodyLen : x.bodyLen = h.bodyLen

/-- The bytes between a part of known length and the rest. -/
theorem take_drop_middle {a b : Bytes} {k n : Nat} (ha : a.length = k) (hb : b.length = n)
    (c : Bytes) : ((a ++ b ++ c).drop k).take n = b := by
  subst ha hb
  rw [List.append_assoc, List.drop_left, List.take_left]

/-- An integer of two bytes read back at the offset where it was written. -/
theorem uint16_field {a : Bytes} {k : Nat} (ha : a.length = k) (v : UInt16) (rest : Bytes) :
    UInt16.ofNat (ofLE (((a ++ toLE 2 v.toNat ++ rest).drop k).take 2)) = v := by
  have hv : v.toNat < 256 ^ 2 := v.toNat_lt
  rw [take_drop_middle ha (toLE_length 2 _), ofLE_toLE hv, UInt16.ofNat_toNat]

/-- An integer of four bytes read back at the offset where it was written. -/
theorem uint32_field {a : Bytes} {k : Nat} (ha : a.length = k) (v : UInt32) (rest : Bytes) :
    UInt32.ofNat (ofLE (((a ++ toLE 4 v.toNat ++ rest).drop k).take 4)) = v := by
  have hv : v.toNat < 256 ^ 4 := v.toNat_lt
  rw [take_drop_middle ha (toLE_length 4 _), ofLE_toLE hv, UInt32.ofNat_toNat]

/-- The fields of a struct laid over a marshalled header, with anything behind it. -/
theorem marshal_sameHeader (h : Go.Header) (rest : Bytes) :
    SameHeader (XHead.ofBytes (h.marshal ++ rest)) h := by
  -- each field stands behind the fields before it, whose lengths add up to its offset
  constructor
  · have hfield := uint16_field (a := []) (k := 0) rfl h.id
      (toLE 2 h.version.toNat ++ toLE 4 h.logId.toNat ++ h.provider.toList ++
        toLE 4 h.magicNum.toNat ++ toLE 4 h.reserved.toNat ++ toLE 4 h.bodyLen.toNat ++ rest)
    show UInt16.ofNat (ofLE _) = h.id
    simpa only [Go.Header.marshal, List.nil_append, List.append_assoc] using hfield
  · have hfield := uint16_field (toLE_length 2 h.id.toNat) h.version
      (toLE 4 h.logId.toNat ++ h.provider.toList ++ toLE 4 h.magicNum.toNat ++
        toLE 4 h.reserved.toNat ++ toLE 4 h.bodyLen.toNat ++ rest)
    show UInt16.ofNat (ofLE _) = h.version
    simpa only [Go.Header.marshal, List.append_assoc] using hfield
  · have hfield := uint32_field (a := toLE 2 h.id.toNat ++ toLE 2 h.version.toNat) (k := 4)
      (by simp) h.logId
      (h.provider.toList ++ toLE 4 h.magicNum.toNat ++ toLE 4 h.reserved.toNat ++
        toLE 4 h.bodyLen.toNat ++ rest)
    show UInt32.ofNat (ofLE _) = h.logId
    simpa only [Go.Header.marshal, List.append_assoc] using hfield
  · have hmid := take_drop_middle
      (a := toLE 2 h.id.toNat ++ toLE 2 h.version.toNat ++ toLE 4 h.logId.toNat)
      (b := h.provider.toList) (k := 8) (n := 16) (by simp) (by simp)
      (toLE 4 h.magicNum.toNat ++ toLE 4 h.reserved.toNat ++ toLE 4 h.bodyLen.toNat ++ rest)
    show ((h.marshal ++ rest).drop 8).take 16 = h.provider.toList
    simpa only [Go.Header.marshal, List.append_assoc] using hmid
  · have hfield := uint32_field
      (a := toLE 2 h.id.toNat ++ toLE 2 h.version.toNat ++ toLE 4 h.logId.toNat ++
        h.provider.toList) (k := 24) (by simp) h.magicNum
      (toLE 4 h.reserved.toNat ++ toLE 4 h.bodyLen.toNat ++ rest)
    show UInt32.ofNat (ofLE _) = h.magicNum
    simpa only [Go.Header.marshal, List.append_assoc] using hfield
  · have hfield := uint32_field
      (a := toLE 2 h.id.toNat ++ toLE 2 h.version.toNat ++ toLE 4 h.logId.toNat ++
        h.provider.toList ++ toLE 4 h.magicNum.toNat) (k := 28) (by simp) h.reserved
      (toLE 4 h.bodyLen.toNat ++ rest)
    show UInt32.ofNat (ofLE _) = h.reserved
    simpa only [Go.Header.marshal, List.append_assoc] using hfield
  · have hfield := uint32_field
      (a := toLE 2 h.id.toNat ++ toLE 2 h.version.toNat ++ toLE 4 h.logId.toNat ++
        h.provider.toList ++ toLE 4 h.magicNum.toNat ++ toLE 4 h.reserved.toNat) (k := 32)
      (by simp) h.bodyLen rest
    show UInt32.ofNat (ofLE _) = h.bodyLen
    simpa only [Go.Header.marshal, List.append_assoc] using hfield

/-- A header of Go has the size of `xhead_t`. -/
theorem marshal_length (h : Go.Header) : h.marshal.length = xheadSize := by
  simp [Go.Header.marshal, xheadSize]

/-- The frame of a request as the worker sees it once it is there. -/
theorem write_eq_append (logId : UInt32) {body : Bytes} (hlen : body.length < 2 ^ 32) :
    (Go.newRequest body logId).write = (Go.newRequest body logId).header.marshal ++ body ∧
      (Go.newRequest body logId).header.bodyLen.toNat = body.length := by
  have hbody : (UInt32.ofNat body.length).toNat = body.length := by
    rw [UInt32.toNat_ofNat']
    exact Nat.mod_eq_of_lt hlen
  refine ⟨?_, hbody⟩
  show _ ++ body.take (UInt32.ofNat body.length).toNat = _ ++ body
  rw [hbody, List.take_length]

/-! ### A stream of one frame -/

section
variable (processRequest : Nat → Request → Int)

/-- A connection that has a whole frame and waits has dispatched it. -/
theorem Waiting.requests_of_whole {c : TcpConnection} (h : Waiting processRequest c)
    (hwhole : c.querybuf.length = xheadSize + bodyLen c.querybuf) :
    c.requests = [request c.querybuf] := by
  cases h with
  | head hlen hstate hproc hexp hreq => omega
  | body hhead hlen hstate hproc hexp hreq => omega
  | served hlen hshort hstate hproc hexp hreq hret => exact hreq

/-- A connection whose stream is one frame dispatches this frame and nothing else.
Induction on the reads. -/
theorem serve_of_frame :
    ∀ (events : List (Nat × ReadResult)) (c : TcpConnection), Waiting processRequest c →
      c.closed = false →
      magicNum (c.querybuf ++ received events) = xheadMagicNum →
      (c.querybuf ++ received events).length
        = xheadSize + bodyLen (c.querybuf ++ received events) →
      ∃ c', serve processRequest 4 c events = some c' ∧
        c'.requests = [request (c.querybuf ++ received events)] := by
  intro events
  induction events with
  | nil =>
      intro c h _ _ hwhole
      rw [received, List.append_nil] at hwhole ⊢
      exact ⟨c, rfl, h.requests_of_whole processRequest hwhole⟩
  | cons e events ih =>
      intro c h hclosed hmagic hwhole
      obtain ⟨now, nread⟩ := e
      rw [serve, if_neg (by simp [hclosed])]
      cases nread with
      | failed =>
          -- the stream ends here, so the frame is in the buffer already
          rw [received, List.append_nil] at hwhole ⊢
          refine ⟨{ c with lastInteraction := now, closed := true }, ?_,
            h.requests_of_whole processRequest hwhole⟩
          rw [readQuery, Option.bind_some]
          exact serve_closed processRequest rfl events
      | data bytes =>
          simp only [received, ← List.append_assoc] at hmagic hwhole ⊢
          have hshort : xheadSize ≤ (c.querybuf ++ bytes).length →
              (c.querybuf ++ bytes).length < 65535 + bodyLen (c.querybuf ++ bytes) := by
            intro hhead
            rw [bodyLen_append hhead, List.length_append] at hwhole
            simp only [xheadSize] at hwhole
            omega
          obtain ⟨r, hr, hset, hbuf, hopen⟩ := processQueryBuffer_settled processRequest
            (h.withClock processRequest now) bytes
            (fun hhead => by rwa [magicNum_append hhead] at hmagic)
            (fun hhead => Or.inl (hshort hhead))
          simp only at hr hbuf hopen
          rw [readQuery]
          simp only [hr, Option.map_some, Option.bind_some]
          rcases hset with ⟨hret, hwait⟩ | ⟨hret, hreq, hall, -⟩
          · rw [if_neg (by simpa using hret)]
            rw [← hbuf] at hmagic hwhole ⊢
            exact ih r.2 hwait (hopen.trans hclosed) hmagic hwhole
          · rw [if_pos hret]
            refine ⟨_, serve_closed processRequest rfl events, ?_⟩
            -- a rejected request has arrived as a whole, and what follows it is empty
            rw [hbuf] at hreq hall
            rw [request_append hall]
            exact hreq

/-- What the worker calls `_process_request` with, for a request of the signaling
server: once, with the fields of its header and with its body. This is for every
log id, every body of at most `2 ^ 30` bytes, every way the bytes of `Request.Write`
are split into reads, and whatever `_process_request` returns. -/
theorem frame_processed_once (logId : UInt32) (body : Bytes) (hlen : body.length ≤ 2 ^ 30)
    (events : List (Nat × ReadResult))
    (hstream : received events = (Go.newRequest body logId).write) :
    ∃ fuel c r, serve processRequest fuel {} events = some c ∧ c.requests = [r] ∧
      SameHeader (XHead.ofBytes r.header) (Go.newRequest body logId).header ∧ r.body = body := by
  obtain ⟨hwrite, hbodyLen⟩ := write_eq_append logId (show body.length < 2 ^ 32 by omega)
  have hmarshal := marshal_length (Go.newRequest body logId).header
  have hsame : SameHeader (XHead.ofBytes ((received events).take xheadSize))
      (Go.newRequest body logId).header := by
    have hsame := marshal_sameHeader (Go.newRequest body logId).header []
    rw [List.append_nil] at hsame
    rwa [hstream, hwrite, List.take_left' hmarshal]
  have hannounced : bodyLen (received events) = body.length := by
    rw [bodyLen, hsame.bodyLen, hbodyLen]
  have hwhole : (received events).length = xheadSize + bodyLen (received events) := by
    rw [hannounced, hstream, hwrite, List.length_append, hmarshal]
  obtain ⟨c, hserve, hreq⟩ := serve_of_frame processRequest events {}
    (waiting_init processRequest) rfl hsame.magicNum hwhole
  refine ⟨4, c, request (received events), hserve, hreq, hsame, ?_⟩
  show ((received events).drop xheadSize).take (bodyLen (received events)) = body
  rw [hannounced, hstream, hwrite, List.drop_left' hmarshal, List.take_length]

end

/-- A request of two bytes whose header arrives in two pieces. -/
theorem split_header_processed_once :
    ∃ fuel c r,
      serve (fun _ _ => 0) fuel {}
          [(0, .data ((Go.newRequest [0x7b, 0x7d] 7).write.take 20)),
            (1, .data ((Go.newRequest [0x7b, 0x7d] 7).write.drop 20))] = some c ∧
        c.requests = [r] ∧
        SameHeader (XHead.ofBytes r.header) (Go.newRequest [0x7b, 0x7d] 7).header ∧
        r.body = [0x7b, 0x7d] :=
  frame_processed_once (fun _ _ => 0) 7 [0x7b, 0x7d] (by decide) _ (by simp [received])

end Xrtc.Proofs.Server
