import Xrtc.Lib.Bytes

/-!
# `Xrtc.Go.Xrpc`: the frames of the signaling server

The model of `Header`, `Request` and `Response` of
`go/signaling/src/framework/xrpc`. A frame is a header of 36 bytes, with its integers in
little-endian order, and a body of `BodyLen` bytes.

An `io.Reader` is the list of the chunks that its connection still has to give: `Read`
returns no more than one chunk. A writer takes all that it is given.
-/

set_option autoImplicit false

namespace Xrtc.Go

open Xrtc.Lib

/-- `HEADER_SIZE`. -/
def headerSize : Nat := 36

/-- `HEADER_MAGICNUM`. -/
def headerMagicNum : UInt32 := 0xfb202202

/-- `Header`. -/
structure Header where
  id : UInt16 := 0
  version : UInt16 := 0
  logId : UInt32 := 0
  provider : Vector UInt8 16 := Vector.replicate 16 0
  magicNum : UInt32 := 0
  reserved : UInt32 := 0
  bodyLen : UInt32 := 0
  deriving DecidableEq, Repr

/-- `Header.Marshal`, into a buffer of 36 bytes. -/
def Header.marshal (h : Header) : Bytes :=
  toLE 2 h.id.toNat ++ toLE 2 h.version.toNat ++ toLE 4 h.logId.toNat ++ h.provider.toList ++
    toLE 4 h.magicNum.toNat ++ toLE 4 h.reserved.toNat ++ toLE 4 h.bodyLen.toNat

/-- The `len` bytes of a buffer at `offset`, as an integer. -/
def littleEndian (b : Bytes) (offset len : Nat) : Nat := ofLE ((b.drop offset).take len)

/-- `Header.UnMarshal`. -/
def Header.unMarshal (b : Bytes) : Option Header :=
  if b.length < headerSize then none
  else
    some
      { id := UInt16.ofNat (littleEndian b 0 2)
        version := UInt16.ofNat (littleEndian b 2 2)
        logId := UInt32.ofNat (littleEndian b 4 4)
        provider := Vector.ofFn fun i => b.getD (8 + i) 0
        magicNum := UInt32.ofNat (littleEndian b 24 4)
        reserved := UInt32.ofNat (littleEndian b 28 4)
        bodyLen := UInt32.ofNat (littleEndian b 32 4) }

/-! ### Requests -/

/-- `Request`. The body is read through a limit of `BodyLen` bytes. -/
structure Request where
  header : Header
  body : Bytes
  deriving DecidableEq, Repr

/-- `NewRequest`, for a `bytes.Reader`. -/
def newRequest (body : Bytes) (logId : UInt32) : Request where
  header := { logId, magicNum := headerMagicNum, bodyLen := UInt32.ofNat body.length }
  body := body.take (UInt32.ofNat body.length).toNat

/-- The bytes that `Request.Write` writes. -/
def Request.write (r : Request) : Bytes := r.header.marshal ++ r.body

/-! ### Responses -/

/-- An `io.Reader`. -/
abbrev Reader := List Bytes

/-- `io.ReadFull` with a buffer of `n` bytes. It fails when the chunks end before. -/
def readFull : Nat → Reader → Option (Bytes × Reader)
  | n, [] => if n = 0 then some ([], []) else none
  | n, chunk :: chunks =>
      if n ≤ chunk.length then some (chunk.take n, chunk.drop n :: chunks)
      else (readFull (n - chunk.length) chunks).map fun r => (chunk ++ r.1, r.2)

/-- `Header.Read`. -/
def Header.read (r : Reader) : Option (Header × Reader) :=
  (readFull headerSize r).bind fun (buf, r) => (Header.unMarshal buf).map fun h => (h, r)

/-- `Response`. -/
structure Response where
  header : Header
  body : Bytes
  deriving DecidableEq, Repr

/-- `ReadResponse`. -/
def readResponse (r : Reader) : Option Response :=
  (Header.read r).bind fun (header, r) =>
    if header.magicNum ≠ headerMagicNum then none
    else (readFull header.bodyLen.toNat r).map fun (body, _) => { header, body }

end Xrtc.Go
