import Xrtc.Server.SignalingWorker

/-!
# `Xrtc.Server.QueryBuf`: the room of the query buffer

`_read_query` of `rtcserver/src/server/signaling_worker.cpp` calls
`sdsMakeRoomFor` before every `sock_read_data`. A buffer is known here by its
length, the length of `querybuf`, and by its allocation, the bytes of text that
its block has room for. `MakesRoom` is what the worker relies on, and
`sdsMakeRoomFor` is the function of `3rdpart/libwebrtc/src/rtc_base/yuan/sds.cc`
with the header of the string, whose two fields are of type `int`.
-/

set_option autoImplicit false

namespace Xrtc.Server

/-- What a caller relies on: `makeRoom len alloc addlen` is the new allocation. The
sum is the one of `size_t`. -/
structure MakesRoom (makeRoom : Nat → Nat → Nat → Nat) : Prop where
  keep : ∀ {len alloc addlen : Nat}, addlen ≤ alloc - len → makeRoom len alloc addlen = alloc
  grow : ∀ {len alloc addlen : Nat}, alloc - len < addlen →
    (len + addlen) % 2 ^ 64 ≤ makeRoom len alloc addlen
  lt : ∀ {len alloc addlen : Nat}, alloc < 2 ^ 64 → makeRoom len alloc addlen < 2 ^ 64

/-- One call of `_read_query`: the connection before it, and the free space of the
buffer when `sock_read_data` is called. -/
structure Read where
  conn : TcpConnection
  room : Nat

/-- The calls of `_read_query` on a connection whose buffer has the allocation
`alloc`, as `TcpConnection.serve` makes them. -/
def reads (makeRoom : Nat → Nat → Nat → Nat) (processRequest : Nat → Request → Int)
    (fuel : Nat) : TcpConnection → Nat → List (Nat × ReadResult) → List Read
  | _, _, [] => []
  | c, alloc, (now, nread) :: events =>
      if c.closed then []
      else
        let alloc := makeRoom c.querybuf.length alloc c.readLen
        ⟨c, alloc - c.querybuf.length⟩ ::
          (c.readQuery processRequest fuel now nread).elim []
            fun c => reads makeRoom processRequest fuel c alloc events

/-! ### The strings of the bundled library -/

/-- `SDS_MAX_PREALLOC`. -/
def sdsMaxPrealloc : Nat := 1024 * 1024

/-- `struct sdshdr`, with the bytes of text its block has room for. -/
structure SdsHdr where
  len : Int
  free : Int
  alloc : Nat
  deriving DecidableEq, Repr

/-- `sdslen` and `sdsavail`: a field as a `size_t`. -/
def sizeT (field : Int) : Nat := (field % 2 ^ 64).toNat

/-- `sdsMakeRoomFor`, where `zrealloc` succeeds. -/
def sdsMakeRoomFor (s : SdsHdr) (addlen : Nat) : SdsHdr :=
  if addlen ≤ sizeT s.free then s
  else
    let len := sizeT s.len
    let newlen := (len + addlen) % 2 ^ 64
    let newlen :=
      if newlen < sdsMaxPrealloc then newlen * 2 else (newlen + sdsMaxPrealloc) % 2 ^ 64
    { s with free := Int.bmod (newlen - len) (2 ^ 32), alloc := newlen }

end Xrtc.Server
