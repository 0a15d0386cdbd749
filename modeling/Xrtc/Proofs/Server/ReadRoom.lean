import Xrtc.Proofs.Server.SignalingWorker
import Xrtc.Server.QueryBuf

/-!
# `Xrtc.Proofs.Server.ReadRoom`: a read and the room reserved for it

`_read_query` takes `bytes_expected` through an `int`. A body length from `2 ^ 31` on
comes out negative, and as a `size_t` it is close to `2 ^ 64`. The sum that
`sdsMakeRoomFor` allocates then wraps around as soon as the bytes in the buffer
make up the difference, while `sock_read_data` is still asked for all of it.

`reads_within_room_iff` says which reads stay within their room: those with a body
length below `2 ^ 31`, and those with fewer than `2 ^ 32 - body_len` bytes in the
buffer. One read is `readLen_le_room_iff`. `ReadReady` is what every read finds,
`processQueryBuffer_ready` keeps it through the loop, and the run is an induction on
the reads: up to the first read that leaves its room, the buffer is as long as its
allocation says.
-/

set_option autoImplicit false

namespace Xrtc.Proofs.Server

open Xrtc.Lib
open Xrtc.Server
open Xrtc.Server.TcpConnection

/-- The sum of the buffer and the bytes asked for does not wrap around. -/
def AsksInRange (c : TcpConnection) : Prop :=
  c.bytesExpected < 2 ^ 31 ∨ c.querybuf.length + c.bytesExpected < 2 ^ 32

/-- What a call of `_read_query` finds. -/
structure ReadReady (c : TcpConnection) : Prop where
  expected : c.bytesExpected < 2 ^ 32
  processed : c.bytesProcessed ≤ 65535
  awaits : c.querybuf.length < c.bytesProcessed + c.bytesExpected

/-! ### One read -/

/-- A length that does not fit an `int` is asked for as a number close to `2 ^ 64`. -/
theorem readLen_eq_of_ge {c : TcpConnection} (hlow : 2 ^ 31 ≤ c.bytesExpected)
    (hhigh : c.bytesExpected < 2 ^ 32) :
    c.readLen = 2 ^ 64 - 2 ^ 32 + c.bytesExpected := by
  have hmod : (c.bytesExpected : Int) % ((2 ^ 32 : Nat) : Int) = c.bytesExpected := by
    apply Int.emod_eq_of_lt
    · exact Int.natCast_nonneg _
    · exact_mod_cast hhigh
  have hbmod : Int.bmod c.bytesExpected (2 ^ 32) = c.bytesExpected - 2 ^ 32 := by
    rw [Int.bmod_def, hmod, if_neg (by omega)]
    norm_num
  show ((Int.bmod c.bytesExpected (2 ^ 32)) % 2 ^ 64).toNat = _
  rw [hbmod]
  omega

/-- One read asks for no more than its room exactly when the sum does not wrap. -/
theorem readLen_le_room_iff {makeRoom : Nat → Nat → Nat → Nat} (hmake : MakesRoom makeRoom)
    {c : TcpConnection} (hready : ReadReady c) {alloc : Nat} (halloc : alloc < 2 ^ 64) :
    c.readLen ≤ makeRoom c.querybuf.length alloc c.readLen - c.querybuf.length ↔
      AsksInRange c := by
  obtain ⟨hexpected, hprocessed, hawaits⟩ := hready
  have hlt : makeRoom c.querybuf.length alloc c.readLen < 2 ^ 64 := hmake.lt halloc
  -- whichever way the buffer is made, a sum in range fits
  have hfits : c.querybuf.length + c.readLen < 2 ^ 64 →
      c.readLen ≤ makeRoom c.querybuf.length alloc c.readLen - c.querybuf.length := by
    intro hsum
    by_cases hkeep : c.readLen ≤ alloc - c.querybuf.length
    · rw [hmake.keep hkeep]
      exact hkeep
    · have hgrow := hmake.grow (Nat.lt_of_not_le hkeep)
      rw [Nat.mod_eq_of_lt hsum] at hgrow
      omega
  by_cases hsmall : c.bytesExpected < 2 ^ 31
  · have hlen := readLen_eq_of_lt rfl hsmall
    constructor
    · intro _
      exact Or.inl hsmall
    · intro _
      exact hfits (by omega)
  · have hlen := readLen_eq_of_ge (Nat.le_of_not_lt hsmall) hexpected
    constructor
    · intro hroom
      right
      -- an allocation is below `2 ^ 64`, so it holds no sum that reaches it
      omega
    · intro hrange
      have hsum := hrange.resolve_left hsmall
      exact hfits (by omega)

/-! ### The loop -/

section
variable (processRequest : Nat → Request → Int)

/-- The length of a body has four bytes. -/
theorem bodyLen_lt (querybuf : Bytes) : bodyLen querybuf < 2 ^ 32 :=
  (XHead.ofBytes (querybuf.take xheadSize)).bodyLen.toNat_lt

/-- When the loop of `_process_query_buffer` ends well, the connection is ready for
the next read. Induction on its iterations. -/
theorem processQueryBuffer_ready :
    ∀ (fuel : Nat) (c : TcpConnection) (r : Int × TcpConnection),
      c.bytesExpected < 2 ^ 32 → c.bytesProcessed ≤ 65535 →
      processQueryBuffer processRequest fuel c = some r → r.1 = 0 → ReadReady r.2 := by
  intro fuel
  induction fuel with
  | zero => intro c r _ _ h; simp [processQueryBuffer] at h
  | succ fuel ih =>
      intro c r hexpected hprocessed h hret
      rw [processQueryBuffer] at h
      split at h
      · split at h
        · split at h
          · cases h
            cases hret
          · -- the head is complete, and its length is that of the body
            exact ih { c with
                currentState := .body
                bytesProcessed := xheadSize
                bytesExpected := bodyLen c.querybuf } r (bodyLen_lt _) (by simp [xheadSize]) h hret
        · dsimp only at h
          split at h
          · cases h
            cases hret
          · -- the request is complete, and `bytes_processed` is its largest value
            exact ih { c with
                bytesProcessed := 65535
                requests := c.requests ++ [request c.querybuf] } r hexpected (by simp) h hret
      · rename_i hlen
        cases h
        exact ⟨hexpected, hprocessed, Nat.lt_of_not_le hlen⟩

/-- A connection that is open after a `_read_query` is ready for the next one. -/
theorem readQuery_ready {fuel now : Nat} {c c' : TcpConnection} {nread : ReadResult}
    (hready : ReadReady c) (h : readQuery processRequest fuel c now nread = some c')
    (hopen : c'.closed = false) : ReadReady c' := by
  cases nread with
  | failed =>
      simp only [readQuery, Option.some.injEq] at h
      subst h
      cases hopen
  | data bytes =>
      simp only [readQuery, Option.map_eq_some_iff] at h
      obtain ⟨r, hr, hc'⟩ := h
      by_cases hret : r.1 = 0
      · rw [if_neg (by simpa using hret)] at hc'
        subst hc'
        exact processQueryBuffer_ready processRequest fuel
          { c with querybuf := c.querybuf ++ bytes, lastInteraction := now } r
          hready.expected hready.processed hr hret
      · rw [if_pos hret] at hc'
        subst hc'
        cases hopen

/-! ### The reads of a connection -/

/-- A closed connection reads no more. -/
theorem reads_closed {makeRoom : Nat → Nat → Nat → Nat} {fuel alloc : Nat} {c : TcpConnection}
    (h : c.closed = true) (events : List (Nat × ReadResult)) :
    reads makeRoom processRequest fuel c alloc events = [] := by
  cases events with
  | nil => rfl
  | cons e events =>
      obtain ⟨now, nread⟩ := e
      rw [reads, if_pos h]

/-- The reads from a connection that is ready, by induction on the reads: each is in its room
exactly if it is in range, and leaves a connection that is ready for the next. -/
theorem reads_iff_of_ready {makeRoom : Nat → Nat → Nat → Nat} (hmake : MakesRoom makeRoom)
    {fuel : Nat} :
    ∀ (events : List (Nat × ReadResult)) (c : TcpConnection) (alloc : Nat),
      (c.closed = false → ReadReady c) → alloc < 2 ^ 64 →
      ((∀ r ∈ reads makeRoom processRequest fuel c alloc events, r.conn.readLen ≤ r.room) ↔
        ∀ r ∈ reads makeRoom processRequest fuel c alloc events, AsksInRange r.conn) := by
  intro events
  induction events with
  | nil => intro c alloc _ _; simp [reads]
  | cons e events ih =>
      intro c alloc hready halloc
      obtain ⟨now, nread⟩ := e
      cases hclosed : c.closed with
      | true => simp [reads_closed processRequest hclosed]
      | false =>
          have hfirst := readLen_le_room_iff hmake (hready hclosed) halloc
          have halloc' : makeRoom c.querybuf.length alloc c.readLen < 2 ^ 64 := hmake.lt halloc
          rw [reads, if_neg (by simp [hclosed])]
          simp only [List.forall_mem_cons]
          rw [hfirst]
          apply and_congr_right
          intro _
          cases hread : c.readQuery processRequest fuel now nread with
          | none => simp
          | some c' =>
              rw [Option.elim_some]
              exact ih c' _ (readQuery_ready processRequest (hready hclosed) hread) halloc'

/-- Every read of a connection asks for at most the room that is reserved for it if
and only if every read is in range: `bytes_expected` is below `2 ^ 31`, or it is
below `2 ^ 32` together with what the buffer holds. This is for every stream and
every way it is split into reads. -/
theorem reads_within_room_iff {makeRoom : Nat → Nat → Nat → Nat} (hmake : MakesRoom makeRoom)
    (fuel : Nat) (events : List (Nat × ReadResult)) :
    (∀ r ∈ reads makeRoom processRequest fuel {} 0 events, r.conn.readLen ≤ r.room) ↔
      ∀ r ∈ reads makeRoom processRequest fuel {} 0 events, AsksInRange r.conn := by
  apply reads_iff_of_ready processRequest hmake events
  · intro _
    exact ⟨by decide, by decide, by decide⟩
  · decide

end

/-! ### A body length of `2 ^ 32 - 36` -/

/-- An allocator that makes room as `sdsMakeRoomFor` does, without its overflows. -/
def makeRoom (len alloc addlen : Nat) : Nat :=
  if addlen ≤ alloc - len then alloc
  else
    let newlen := (len + addlen) % 2 ^ 64
    if newlen < sdsMaxPrealloc then newlen * 2 else min (newlen + sdsMaxPrealloc) (2 ^ 64 - 1)

/-- The room that `sdsMakeRoomFor` makes is what the reads rely on. -/
theorem makesRoom_makeRoom : MakesRoom makeRoom where
  keep := by
    intro len alloc addlen h
    exact if_pos h
  grow := by
    intro len alloc addlen h
    rw [makeRoom, if_neg (by omega)]
    dsimp only
    split <;> omega
  lt := by
    intro len alloc addlen halloc
    rw [makeRoom, sdsMaxPrealloc]
    by_cases hkeep : addlen ≤ alloc - len
    · rw [if_pos hkeep]
      exact halloc
    · rw [if_neg hkeep]
      dsimp only
      by_cases hsmall : (len + addlen) % 2 ^ 64 < 1024 * 1024
      · rw [if_pos hsmall]
        omega
      · rw [if_neg hsmall]
        omega

/-- A size below `2 ^ 64` is its own `size_t`. -/
theorem sizeT_natCast {n : Nat} (h : n < 2 ^ 64) : sizeT n = n := by
  have hmod : (n : Int) % 2 ^ 64 = n := by omega
  rw [sizeT, hmod, Int.toNat_natCast]

/-- The function of the library does the same while its `int` fields hold. -/
theorem sdsMakeRoomFor_eq {len alloc addlen : Nat} (hlen : len ≤ alloc) (halloc : alloc < 2 ^ 31)
    (hsum : len + addlen + sdsMaxPrealloc < 2 ^ 31) :
    sdsMakeRoomFor ⟨len, (alloc - len : Nat), alloc⟩ addlen =
      ⟨len, (makeRoom len alloc addlen - len : Nat), makeRoom len alloc addlen⟩ := by
  rw [sdsMaxPrealloc] at hsum
  have hmod : (len + addlen) % 2 ^ 64 = len + addlen := Nat.mod_eq_of_lt (by omega)
  rw [sdsMakeRoomFor, makeRoom, sizeT_natCast (by omega)]
  by_cases hkeep : addlen ≤ alloc - len
  · rw [if_pos hkeep, if_pos hkeep]
  · rw [if_neg hkeep, if_neg hkeep]
    dsimp only
    rw [sizeT_natCast (by omega), hmod, sdsMaxPrealloc]
    -- the new length is below `2 ^ 31`, so its difference to `len` is an `int`
    have hfree : ∀ newlen : Nat, len ≤ newlen → newlen < 2 ^ 31 →
        Int.bmod ((newlen : Int) - (len : Nat)) (2 ^ 32) = ((newlen - len : Nat) : Int) := by
      intro newlen hle hlt
      rw [Int.ofNat_sub hle]
      apply Int.bmod_eq_of_le <;> omega
    by_cases hsmall : len + addlen < 1024 * 1024
    · rw [if_pos hsmall, if_pos hsmall, hfree _ (by omega) (by omega)]
    · have hmod' : (len + addlen + 1024 * 1024) % 2 ^ 64 = len + addlen + 1024 * 1024 :=
        Nat.mod_eq_of_lt (by omega)
      rw [if_neg hsmall, if_neg hsmall, hmod', Nat.min_eq_left (by omega),
        hfree _ (by omega) (by omega)]

/-- A header that announces `2 ^ 32 - 36` bytes. -/
def hugeHead : Bytes :=
  List.replicate 24 0 ++ [0x02, 0x22, 0x20, 0xfb] ++ List.replicate 4 0 ++ [0xdc, 0xff, 0xff, 0xff]

/-- The reads of a connection on which this header arrives. -/
theorem hugeHead_within_room_iff :
    (∀ r ∈ reads makeRoom (fun _ _ => 0) 4 {} 0 [(0, .data hugeHead), (1, .failed)],
        r.conn.readLen ≤ r.room) ↔
      ∀ r ∈ reads makeRoom (fun _ _ => 0) 4 {} 0 [(0, .data hugeHead), (1, .failed)],
        AsksInRange r.conn :=
  reads_within_room_iff (fun _ _ => 0) makesRoom_makeRoom 4 _

/-- The read after this header asks for `2 ^ 64 - 36` bytes and has room for none. -/
theorem hugeHead_exceeds_room :
    MakesRoom makeRoom ∧
      Admissible (fun _ _ => 0) 4 {} [(0, .data hugeHead), (1, .failed)] ∧
      ¬ ∀ r ∈ reads makeRoom (fun _ _ => 0) 4 {} 0 [(0, .data hugeHead), (1, .failed)],
        r.conn.readLen ≤ r.room := by
  refine ⟨makesRoom_makeRoom, ⟨by decide +kernel, by decide +kernel, fun c _ _ => trivial⟩, ?_⟩
  decide +kernel

end Xrtc.Proofs.Server
