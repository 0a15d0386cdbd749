import Xrtc.Lib.Bytes

/-!
# `Xrtc.Server.RtcServer`: the way of a message to its worker

The model of `rtcserver/src/server/rtc_server.cpp` and `rtc_worker.cpp` from
`RtcServer::send_rtc_msg` to `RtcWorker::_process_rtc_msg`, with the queue of
`base/lock_free_queue.h` and the checksum of `rtc_base/crc32.cc`.

Many threads send to the server, and each puts its message into the queue and then
writes to the pipe. The loop of the server reads one notification, takes one message
and sends it to the worker of its stream in the same two steps. Each of these steps
is an event, so that the threads interleave in every way. Writing to a pipe and
making the certificate succeed. The message is a shared pointer of type `μ`, of which
only the name of the stream is read here.

`entered` records the messages in the order in which they came into the queue of
the server, and `processed` what a worker has taken out of its own.
-/

set_option autoImplicit false

namespace Xrtc.Server

open Xrtc.Lib

/-! ### `ComputeCrc32` -/

/-- `kCrc32Polynomial`. -/
def kCrc32Polynomial : UInt32 := 0xEDB88320

/-- One entry of `LoadCrc32Table`: eight shifts. -/
def crc32TableEntry (i : UInt32) : UInt32 :=
  (List.range 8).foldl (fun c _ => if c &&& 1 ≠ 0 then kCrc32Polynomial ^^^ (c >>> 1) else c >>> 1) i

/-- `UpdateCrc32`. -/
def updateCrc32 (start : UInt32) (buf : Bytes) : UInt32 :=
  (buf.foldl (fun c u => crc32TableEntry ((c ^^^ u.toUInt32) &&& 0xFF) ^^^ (c >>> 8))
    (start ^^^ 0xFFFFFFFF)) ^^^ 0xFFFFFFFF

/-- `ComputeCrc32`. -/
def computeCrc32 (str : Bytes) : UInt32 := updateCrc32 0 str

/-- The check value of the checksum, for the digits from 1 to 9. -/
example : computeCrc32 [0x31, 0x32, 0x33, 0x34, 0x35, 0x36, 0x37, 0x38, 0x39] = 0xCBF43926 := by
  decide +kernel

/-! ### `LockFreeQueue` -/

/-- `LockFreeQueue`: the values of the nodes behind `first`, and how far `divider` is
behind it. The value of `first` is never read. -/
structure LockFreeQueue (α : Type) where
  nodes : List α
  divider : Nat
  le : divider ≤ nodes.length

namespace LockFreeQueue

variable {α : Type}

/-- The queue that the constructor makes. -/
def new : LockFreeQueue α where
  nodes := []
  divider := 0
  le := Nat.zero_le _

/-- `produce`. The nodes before `divider` are freed. -/
def produce (q : LockFreeQueue α) (t : α) : LockFreeQueue α where
  nodes := (q.nodes ++ [t]).drop q.divider
  divider := 0
  le := Nat.zero_le _

/-- `consume`. -/
def consume (q : LockFreeQueue α) : Option (α × LockFreeQueue α) :=
  if h : q.divider < q.nodes.length then
    some (q.nodes[q.divider], { nodes := q.nodes, divider := q.divider + 1, le := h })
  else none

/-- The values that have been produced and not consumed. -/
def contents (q : LockFreeQueue α) : List α := q.nodes.drop q.divider

/-- A message goes to the end of the queue. -/
@[simp] theorem contents_produce (q : LockFreeQueue α) (t : α) :
    (q.produce t).contents = q.contents ++ [t] :=
  List.drop_append_of_le_length q.le

/-- A value that is consumed is the oldest one. -/
theorem contents_of_consume {q q' : LockFreeQueue α} {t : α} (h : q.consume = some (t, q')) :
    q.contents = t :: q'.contents := by
  rw [consume] at h
  split at h
  · rename_i hlt
    cases h
    exact List.drop_eq_getElem_cons hlt
  · cases h

/-- Nothing is consumed from an empty queue only. -/
theorem contents_of_consume_none {q : LockFreeQueue α} (h : q.consume = none) :
    q.contents = [] := by
  rw [consume] at h
  split at h
  · cases h
  · rename_i hlt
    exact List.drop_eq_nil_of_le (Nat.le_of_not_lt hlt)

end LockFreeQueue

/-! ### The threads -/

/-- An `RtcWorker`. It is `woken` between the read of a notification and the call of
`pop_msg`. -/
structure RtcWorker (μ : Type) where
  qMsg : LockFreeQueue μ := .new
  pipe : Nat := 0
  woken : Bool := false
  processed : List μ := []

/-- Where the loop of the server is in `_process_rtc_msg`. -/
inductive ServerLoop (μ : Type) where
  | idle
  /-- a notification has been read -/
  | woken
  /-- `pop_msg` has returned a message, and `_get_worker` the worker of this index -/
  | popped (index : Nat) (msg : μ)
  /-- the message is in the queue of the worker, and `notify` comes next -/
  | pushed (index : Nat)

/-- An `RtcServer` and its workers. `sending` are the threads that have called `push_msg`
and not `notify` yet. -/
structure RtcServer (P μ : Type) where
  workerNum : Int
  workers : List (RtcWorker μ)
  qMsg : List μ := []
  pipe : Nat := 0
  sending : List P := []
  loop : ServerLoop μ := .idle
  entered : List μ := []

/-- A step of one of the threads. -/
inductive RtcEvent (P μ : Type) where
  /-- a signaling worker calls `send_rtc_msg`, which calls `push_msg` -/
  | push (p : P) (msg : μ)
  /-- and then `notify` -/
  | notify (p : P)
  /-- `rtc_server_recv_notify` -/
  | serverWake
  /-- `pop_msg` and `_get_worker` in `_process_rtc_msg` -/
  | serverPop
  /-- `RtcWorker::push_msg` in `RtcWorker::send_rtc_msg` -/
  | serverPush
  /-- `RtcWorker::notify` in `RtcWorker::send_rtc_msg` -/
  | serverNotify
  /-- `rtc_worker_recv_notify` -/
  | workerWake (index : Nat)
  /-- `pop_msg` in `RtcWorker::_process_rtc_msg` and what follows it -/
  | workerProcess (index : Nat)

/-- `rtc_worker_recv_notify` reads a notification. -/
def RtcWorker.wake {μ : Type} (w : RtcWorker μ) : RtcWorker μ :=
  if w.woken = false ∧ 0 < w.pipe then { w with pipe := w.pipe - 1, woken := true } else w

/-- `RtcWorker::_process_rtc_msg`. -/
def RtcWorker.processRtcMsg {μ : Type} (w : RtcWorker μ) : RtcWorker μ :=
  if w.woken then
    match w.qMsg.consume with
    | none => { w with woken := false }
    | some (msg, qMsg) => { w with qMsg, woken := false, processed := w.processed ++ [msg] }
  else w

namespace RtcServer

variable {P μ : Type}

/-- The server after `init` with the option `worker_num`. -/
def init (workerNum : Int) : RtcServer P μ :=
  { workerNum, workers := List.replicate workerNum.toNat {} }

/-- `_get_worker`: the index of a worker. The option is an `int` that is converted to
`size_t` in the comparison and to `uint32_t` in the division. -/
def getWorker (s : RtcServer P μ) (streamName : Bytes) : Option Nat :=
  if s.workers.length = 0 ∨ s.workers.length ≠ (s.workerNum % 2 ^ 64).toNat then none
  else some ((computeCrc32 streamName).toNat % (s.workerNum % 2 ^ 32).toNat)

/-- The server with a change to one worker. -/
def modifyWorker (s : RtcServer P μ) (index : Nat) (f : RtcWorker μ → RtcWorker μ) :
    RtcServer P μ :=
  { s with workers := s.workers.modify index f }

variable [DecidableEq P] (streamName : μ → Bytes)

/-- One step of one thread. A step that the thread cannot take is none. -/
def step (s : RtcServer P μ) : RtcEvent P μ → RtcServer P μ
  | .push p msg =>
      if p ∈ s.sending then s
      else
        { s with
            qMsg := s.qMsg ++ [msg]
            sending := p :: s.sending
            entered := s.entered ++ [msg] }
  | .notify p =>
      if p ∈ s.sending then { s with sending := s.sending.erase p, pipe := s.pipe + 1 } else s
  | .serverWake =>
      match s.loop with
      | .idle => if 0 < s.pipe then { s with pipe := s.pipe - 1, loop := .woken } else s
      | _ => s
  | .serverPop =>
      match s.loop with
      | .woken =>
          match s.qMsg with
          | [] => { s with loop := .idle }
          | msg :: qMsg =>
              match s.getWorker (streamName msg) with
              | none => { s with qMsg, loop := .idle }
              | some index => { s with qMsg, loop := .popped index msg }
      | _ => s
  | .serverPush =>
      match s.loop with
      | .popped index msg =>
          { s.modifyWorker index (fun w => { w with qMsg := w.qMsg.produce msg }) with
              loop := .pushed index }
      | _ => s
  | .serverNotify =>
      match s.loop with
      | .pushed index =>
          { s.modifyWorker index (fun w => { w with pipe := w.pipe + 1 }) with loop := .idle }
      | _ => s
  | .workerWake index => s.modifyWorker index RtcWorker.wake
  | .workerProcess index => s.modifyWorker index RtcWorker.processRtcMsg

end RtcServer

end Xrtc.Server
