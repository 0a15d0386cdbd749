import Xrtc.Lib.Memory
import Xrtc.Server.SignalingWorker

/-!
# `Xrtc.Server.Reply`: the replies of the signaling worker

The model of how `rtcserver/src/server/signaling_worker.cpp` builds a reply, at the
end of `_response_server_offer` and at the end of `_process_request`. Both allocate
`XHEAD_SIZE + MAX_RES_BUF` bytes, copy the header of the request into them, set its
`body_len`, print the JSON text behind it, and queue a slice that starts at the
block. The slice may be longer than the block, so the block is a memory: what
`malloc` left in it and what lies behind it is `mem`.

The text is what `Json::writeString` gives for the root value, a function of the
JSON library.
-/

set_option autoImplicit false

namespace Xrtc.Server

open Xrtc.Lib

/-- `MAX_RES_BUF`. -/
def maxResBuf : Nat := 4096

/-- The slice that both functions queue. Its size is a sum of 32 bits. -/
def replySlice (mem : Memory) (header json : Bytes) : Bytes :=
  let buf := mem.write 0 header
  let buf := buf.write 32 (toLE 4 json.length)
  let buf := buf.snprintf xheadSize maxResBuf json
  buf.read 0 (UInt32.ofNat xheadSize + UInt32.ofNat json.length).toNat

/-- The root value of a reply. -/
structure ReplyRoot where
  errNo : Int
  errMsg : String
  offer : Option Bytes
  deriving DecidableEq, Repr

/-- The root value that `_response_server_offer` builds for a message. -/
def offerRoot (errNo : Int) (sdp : Bytes) : ReplyRoot :=
  if errNo ≠ 0 then { errNo, errMsg := "process error", offer := some [] }
  else { errNo, errMsg := "success", offer := some sdp }

/-- The root value that `_process_request` builds at its end. -/
def processRequestRoot (ret : Int) : ReplyRoot :=
  if ret = 0 then { errNo := 0, errMsg := "success", offer := none }
  else { errNo := -1, errMsg := "process error", offer := none }

section
variable (writeString : ReplyRoot → Bytes)

/-- The reply of `_response_server_offer`. -/
def responseServerOfferReply (mem : Memory) (header : Bytes) (errNo : Int) (sdp : Bytes) : Bytes :=
  replySlice mem header (writeString (offerRoot errNo sdp))

/-- The reply of `_process_request`. -/
def processRequestReply (mem : Memory) (header : Bytes) (ret : Int) : Bytes :=
  replySlice mem header (writeString (processRequestRoot ret))

end

end Xrtc.Server
