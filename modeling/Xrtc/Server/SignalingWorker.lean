import Xrtc.Lib.Bytes

/-!
# `Xrtc.Server.SignalingWorker`: reading requests from a signaling connection

The model of the receiving side of `rtcserver/src/server/signaling_worker.cpp`:
`_read_query`, `_process_query_buffer` and `_close_conn` on one `TcpConnection`
(`tcp_connection.h`), with the `xhead_t` header of `base/xhead.h`. The header is
read by casting the buffer, so its integers are in host order, which is little
endian.

`sock_read_data` and `_process_request` are answered from outside. A read returns
some bytes, or no byte yet, or fails (`ReadResult`). `processRequest n request`
is the value `_process_request` returns for its `n`-th call on the connection,
counted from zero: it parses the body as JSON and may send a message to another
thread, so the value is not a function of the request alone. Every call is
recorded in `requests`.

`_process_query_buffer` is a `while` loop that need not end. The model runs it
for a given number of iterations and returns `none` when it is still running
then.
-/

set_option autoImplicit false

namespace Xrtc.Server

open Xrtc.Lib

/-- `XHEAD_SIZE`. -/
def xheadSize : Nat := 36

/-- `XHEAD_MAGIC_NUM`. -/
def xheadMagicNum : UInt32 := 0xfb202202

/-- `xhead_t`. -/
structure XHead where
  id : UInt16
  version : UInt16
  logId : UInt32
  provider : Bytes
  magicNum : UInt32
  reserved : UInt32
  bodyLen : UInt32
  deriving DecidableEq, Repr

/-- The struct laid over the first bytes of a buffer. -/
def XHead.ofBytes (buf : Bytes) : XHead :=
  let field (offset len : Nat) : Nat := ofLE ((buf.drop offset).take len)
  { id := UInt16.ofNat (field 0 2)
    version := UInt16.ofNat (field 2 2)
    logId := UInt32.ofNat (field 4 4)
    provider := (buf.drop 8).take 16
    magicNum := UInt32.ofNat (field 24 4)
    reserved := UInt32.ofNat (field 28 4)
    bodyLen := UInt32.ofNat (field 32 4) }

/-- `TcpConnection::STATE_HEAD` and `STATE_BODY`. -/
inductive ReadState where
  | head
  | body
  deriving DecidableEq, Repr

/-- The two slices `_process_request` is called with. -/
structure Request where
  header : Bytes
  body : Bytes
  deriving DecidableEq, Repr

/-- `TcpConnection`, its receiving half. `closed` stands for `_close_conn`, after
which the object is gone, and `requests` lists the calls of `_process_request`. -/
structure TcpConnection where
  querybuf : Bytes := []
  bytesExpected : Nat := xheadSize
  bytesProcessed : Nat := 0
  currentState : ReadState := .head
  lastInteraction : Nat := 0
  closed : Bool := false
  requests : List Request := []
  deriving DecidableEq, Repr

/-- What `sock_read_data` answers: bytes (none of them when the call would
block), or `-1` for an error or an end of stream. -/
inductive ReadResult where
  | data (bytes : Bytes)
  | failed
  deriving DecidableEq, Repr

/-- The body length announced by the header in the buffer. -/
def bodyLen (querybuf : Bytes) : Nat :=
  (XHead.ofBytes (querybuf.take xheadSize)).bodyLen.toNat

/-- The magic number of the header in the buffer. -/
def magicNum (querybuf : Bytes) : UInt32 :=
  (XHead.ofBytes (querybuf.take xheadSize)).magicNum

/-- The header and body slices of the buffer. -/
def request (querybuf : Bytes) : Request :=
  ⟨querybuf.take xheadSize, (querybuf.drop xheadSize).take (bodyLen querybuf)⟩

namespace TcpConnection

variable (processRequest : Nat → Request → Int)

/-- `_process_query_buffer`: its return value and the connection, if the loop
ends within `fuel` iterations. -/
def processQueryBuffer : Nat → TcpConnection → Option (Int × TcpConnection)
  | 0, _ => none
  | fuel + 1, c =>
      if c.bytesProcessed + c.bytesExpected ≤ c.querybuf.length then
        match c.currentState with
        | .head =>
            if magicNum c.querybuf ≠ xheadMagicNum then some (-1, c)
            else processQueryBuffer fuel
              { c with
                  currentState := .body
                  bytesProcessed := xheadSize
                  bytesExpected := bodyLen c.querybuf }
        | .body =>
            let r := request c.querybuf
            let ret := processRequest c.requests.length r
            let c := { c with requests := c.requests ++ [r] }
            if ret ≠ 0 then some (-1, c)
            -- short connection: the state stays `STATE_BODY` and only
            -- `bytes_processed` moves
            else processQueryBuffer fuel { c with bytesProcessed := 65535 }
      else some (0, c)

/-- The byte count `_read_query` passes to `sock_read_data`: `bytes_expected`
through an `int` and back to `size_t`. -/
def readLen (c : TcpConnection) : Nat :=
  ((Int.bmod c.bytesExpected (2 ^ 32)) % 2 ^ 64).toNat

/-- `_read_query` on an open connection, with the answer of `sock_read_data`. -/
def readQuery (fuel : Nat) (c : TcpConnection) (now : Nat) (nread : ReadResult) :
    Option TcpConnection :=
  let c := { c with lastInteraction := now }
  match nread with
  | .failed => some { c with closed := true }
  | .data bytes =>
      (processQueryBuffer processRequest fuel { c with querybuf := c.querybuf ++ bytes }).map
        fun r => if r.1 ≠ 0 then { r.2 with closed := true } else r.2

/-- The life of a connection: one `_read_query` for each readiness event, until
it is closed. An event carries the clock and the answer of the socket. -/
def serve (fuel : Nat) : TcpConnection → List (Nat × ReadResult) → Option TcpConnection
  | c, [] => some c
  | c, (now, nread) :: events =>
      if c.closed then some c
      else (readQuery processRequest fuel c now nread).bind fun c => serve fuel c events

end TcpConnection

/-- The bytes a connection receives from a list of socket answers: what comes
before the first failure. -/
def received : List (Nat × ReadResult) → Bytes
  | [] => []
  | (_, .failed) :: _ => []
  | (_, .data bytes) :: events => bytes ++ received events

/-- The socket answers that `read(2)` allows for: never more bytes than asked
for, and a read of no bytes reports an end of stream. -/
def Admissible (processRequest : Nat → Request → Int) (fuel : Nat) :
    TcpConnection → List (Nat × ReadResult) → Prop
  | _, [] => True
  | _, (_, .failed) :: _ => True
  | c, (now, .data bytes) :: events =>
      bytes.length ≤ c.readLen ∧ 0 < c.readLen ∧
        ∀ c', c.readQuery processRequest fuel now (.data bytes) = some c' →
          c'.closed = false → Admissible processRequest fuel c' events

end Xrtc.Server
