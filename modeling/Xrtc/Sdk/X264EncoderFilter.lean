import Xrtc.Lib.Bytes

/-!
# `Xrtc.Sdk.X264EncoderFilter`: an encoded frame put together

The model of `X264EncoderFilter::Encode` of `xrtcsdk/xrtc/media/filter/x264_encoder_filter.cpp`.
What `x264_encoder_encode` returns is a function of the time stamp of the picture.

The frame is a block of bytes, and a `memcpy` to it is an offset and the bytes (`Copy`), also
where it writes behind the end of the block. x264 gives the size of all NAL units as an `int`, so
that the sums of their sizes do not wrap around.
-/

set_option autoImplicit false

namespace Xrtc.Sdk

open Xrtc.Lib

/-- `nal_unit_type_e`. -/
inductive NalType where
  | unknown
  | slice
  | sliceDpa
  | sliceDpb
  | sliceDpc
  | sliceIdr
  | sei
  | sps
  | pps
  | aud
  | filler
  deriving DecidableEq, Repr

/-- `x264_nal_t`, the fields that are read. -/
structure Nal where
  type : NalType
  payload : Bytes
  deriving DecidableEq, Repr

/-- What `x264_encoder_encode` returns: its value, the NAL units and the time stamp of the
picture. -/
structure EncoderOutput where
  size : Int
  nals : List Nal
  pts : Int
  deriving DecidableEq, Repr

/-- The fields of the frame to encode that `Encode` reads. -/
structure RawFrame where
  ts : UInt32
  captureTimeMs : Int
  deriving DecidableEq, Repr

/-! ### The first pass -/

/-- The size of the arrays for the parameter sets. -/
def parameterSetSize : Nat := 1024

/-- The variables of the first loop. `sps` and `pps` are as long as `sps_length` and
`pps_length` say. -/
structure NalScan where
  dataSize : Nat := 0
  nals : List Nal := []
  idr : Bool := false
  sps : Bytes := []
  pps : Bytes := []
  deriving DecidableEq, Repr

/-- One round of the first loop. `none` is a parameter set that is too long for its array. -/
def NalScan.add (s : NalScan) (nal : Nal) : Option NalScan :=
  if nal.type = .sliceIdr ∨ nal.type = .slice then
    some
      { s with
          nals := s.nals ++ [nal]
          dataSize := s.dataSize + nal.payload.length
          idr := if nal.type = .sliceIdr then true else s.idr }
  else if nal.type = .sei then some s
  else if nal.type = .sps then
    if nal.payload.length ≤ parameterSetSize then some { s with sps := nal.payload } else none
  else if nal.type = .pps then
    if nal.payload.length ≤ parameterSetSize then some { s with pps := nal.payload } else none
  else some s

/-- `data_size` after the first loop. -/
def NalScan.frameSize (s : NalScan) : Nat :=
  if s.idr then s.dataSize + (s.sps.length + s.pps.length) else s.dataSize

/-! ### The second pass -/

/-- A `memcpy` to the frame. -/
structure Copy where
  dataIndex : Nat
  bytes : Bytes
  deriving DecidableEq, Repr

/-- `data_index`, with the copies made so far. -/
structure FrameWriter where
  dataIndex : Nat := 0
  copies : List Copy := []
  deriving DecidableEq, Repr

/-- A copy to `data_index`, which is moved behind it. -/
def FrameWriter.copy (w : FrameWriter) (bytes : Bytes) : FrameWriter where
  dataIndex := w.dataIndex + bytes.length
  copies := w.copies ++ [⟨w.dataIndex, bytes⟩]

/-- One round of the second loop. -/
def FrameWriter.add (sps pps : Bytes) (w : FrameWriter) (nal : Nal) : FrameWriter :=
  if nal.type = .sliceIdr then ((w.copy sps).copy pps).copy nal.payload
  else w.copy nal.payload

/-! ### `Encode` -/

/-- The frame that is put together: the size it is made with, `data_len[0]`, and what is copied
to it. -/
structure EncodedFrame where
  maxSize : Nat
  dataLen : Nat
  idr : Bool
  ts : UInt32
  captureTimeMs : Int
  copies : List Copy
  deriving DecidableEq, Repr

/-- What a call of `Encode` returns, with the frame if it makes one. -/
inductive Encoded where
  | failed
  | noFrame
  | frame (out : EncodedFrame)
  deriving DecidableEq, Repr

/-- `Encode`. -/
def encode (x264EncoderEncode : Int → EncoderOutput) (frame : RawFrame) : Option Encoded :=
  let out := x264EncoderEncode frame.ts.toNat
  if out.size < 0 then some .failed
  else if out.size = 0 then some .noFrame
  else do
    let scan ← out.nals.foldlM NalScan.add {}
    let writer := scan.nals.foldl (FrameWriter.add scan.sps scan.pps) {}
    return .frame {
      maxSize := scan.frameSize
      dataLen := scan.frameSize
      idr := scan.idr
      ts := UInt32.ofInt out.pts
      captureTimeMs := frame.captureTimeMs
      copies := writer.copies }

end Xrtc.Sdk
