import Mathlib.Logic.Function.Basic
import Xrtc.Server.Reply

/-!
# `Xrtc.Server.Connections`: the connections of a signaling worker

The model of the event loop of `rtcserver/src/server/signaling_worker.cpp`:
`_new_conn`, `_read_query`, `_write_reply`, `_process_timeout`, `_close_conn` and
`_response_server_offer`, over the table `_conns` and the `TcpConnection` objects.
A pointer is an address, `nullptr` is zero, and `objects` is the heap. `close`
frees the descriptor and `delete` the address, so both may be given out again.

A push or pull request sends an `RtcMsg` to `RtcServer`, which keeps the address
of the connection and its descriptor. The message comes back with the offer.
Between the two it is in `pending`, and the messages come back in any order.

Two things are recorded for the statements only. Every object has a `serial`,
which no other object ever gets and a message takes with it, and `replies` lists
what `_response_server_offer` has queued.

An event that the system cannot produce leaves the worker as it is (`step`): an
accepted descriptor that is still open, an allocation at an address in use, an
event for a connection that is gone, and a loop that has not ended.
-/

set_option autoImplicit false

namespace Xrtc.Server

open Xrtc.Lib

/-- A pointer to a `TcpConnection`. -/
abbrev Address := Nat

/-- `nullptr`. -/
def nullptr : Address := 0

/-- A `TcpConnection` object with both its halves. -/
structure Connection where
  fd : Int
  serial : Nat
  tcp : TcpConnection := {}
  replyList : List Bytes := []
  curRespPos : Nat := 0

/-- The fields of an `RtcMsg` that `_response_server_offer` reads, with the log id of
its request and the serial number of its connection. -/
structure RtcMsg where
  conn : Address
  fd : Int
  logId : UInt32
  serial : Nat
  deriving DecidableEq, Repr

/-- What `_response_server_offer` has queued a reply for, and where: the object and the
header that the reply starts with. -/
structure OfferReply where
  msg : RtcMsg
  serial : Nat
  header : Bytes
  deriving DecidableEq, Repr

/-- The state of a `SignalingWorker`. -/
structure SignalingWorker where
  conns : List Address := []
  objects : Address → Option Connection := fun _ => none
  pending : List RtcMsg := []
  nextSerial : Nat := 0
  replies : List OfferReply := []

/-- What a call of `_process_request` does: it returns an error, it sends a push or
pull message and returns what `send_rtc_msg` does, or it queues a reply for the result of
its handler and returns 0. -/
inductive Outcome where
  | failed
  | offer (ret : Int)
  | replied (ret : Int)
  deriving DecidableEq, Repr

/-- The return value of the call. -/
def Outcome.ret : Outcome → Int
  | .failed => -1
  | .offer ret => ret
  | .replied _ => 0

/-- The call sends a message to `RtcServer` that is answered. -/
def Outcome.isOffer : Outcome → Bool
  | .offer _ => true
  | _ => false

/-- The result that the call replies to. -/
def Outcome.result : Outcome → Option Int
  | .replied ret => some ret
  | _ => none

/-- What happens to a worker. -/
inductive Event where
  /-- `_new_conn` with a descriptor, and the address that `new TcpConnection` returns -/
  | newConn (fd : Int) (addr : Address) (now : Nat)
  /-- `_read_query`, with the answer of the socket, what the calls of
  `_process_request` do, and the memory that their replies are built in -/
  | readQuery (fd : Int) (now : Nat) (nread : ReadResult) (outcome : Nat → Request → Outcome)
      (fuel : Nat) (mem : Nat → Memory)
  /-- `_write_reply`, with the answers of `sock_write_data` -/
  | writeReply (fd : Int) (now : Nat) (nwritten : List Int)
  /-- the timer of a connection -/
  | timeout (addr : Address) (now : Nat)
  /-- `_response_server_offer` for a message that has come back -/
  | answer (msg : RtcMsg) (errNo : Int) (sdp : Bytes) (mem : Memory)

namespace SignalingWorker

/-- `_conns[fd]`, which is only read within the bounds. -/
def connAt (w : SignalingWorker) (fd : Int) : Address := w.conns.getD fd.toNat nullptr

/-- `fd` is not an index of `_conns`. -/
def OutOfRange (w : SignalingWorker) (fd : Int) : Prop :=
  fd < 0 ∨ w.conns.length ≤ fd.toNat

instance (w : SignalingWorker) (fd : Int) : Decidable (w.OutOfRange fd) :=
  inferInstanceAs (Decidable (_ ∨ _))

/-- The object at an address after a change. -/
def setObject (w : SignalingWorker) (addr : Address) (c : Option Connection) : SignalingWorker :=
  { w with objects := Function.update w.objects addr c }

/-- The object of this address is the new one. -/
@[simp] theorem setObject_self (w : SignalingWorker) (addr : Address) (c : Option Connection) :
    (w.setObject addr c).objects addr = c :=
  Function.update_self _ _ _

/-- The others stay. -/
theorem setObject_of_ne (w : SignalingWorker) {addr addr' : Address} (h : addr' ≠ addr)
    (c : Option Connection) : (w.setObject addr c).objects addr' = w.objects addr' :=
  Function.update_of_ne h _ _

/-- `_close_conn` and `_remove_conn`. -/
def closeConn (w : SignalingWorker) (addr : Address) (c : Connection) : SignalingWorker :=
  { w.setObject addr none with conns := w.conns.set c.fd.toNat nullptr }

/-- `_conns`, resized to twice the descriptor where this is not an index. -/
def resized (w : SignalingWorker) (fd : Int) : List Address :=
  if w.conns.length ≤ fd.toNat then
    w.conns ++ List.replicate (2 * fd.toNat - w.conns.length) nullptr
  else w.conns

/-- `_new_conn`. The descriptor is one that no open connection has, and the address
is free. Twice 0 leaves no place for the descriptor 0. -/
def newConn (w : SignalingWorker) (fd : Int) (addr : Address) (now : Nat) :
    Option SignalingWorker :=
  if fd < 0 then some w
  else if addr = nullptr ∨ w.objects addr ≠ none ∨ w.connAt fd ≠ nullptr then none
  else if (w.resized fd).length ≤ fd.toNat then none
  else
    let c : Connection := { fd, serial := w.nextSerial, tcp := { lastInteraction := now } }
    some
      { w.setObject addr (some c) with
          conns := (w.resized fd).set fd.toNat addr
          nextSerial := w.nextSerial + 1 }

section
variable (writeString : ReplyRoot → Bytes)

/-- The messages that the requests of a read send to `RtcServer`. The requests are
numbered over the life of the connection. -/
def sentMsgs (addr : Address) (c : Connection) (outcome : Nat → Request → Outcome)
    (requests : List (Request × Nat)) : List RtcMsg :=
  (requests.filter fun r => (outcome r.2 r.1).isOffer).map fun r =>
    { conn := addr
      fd := c.fd
      logId := (XHead.ofBytes r.1.header).logId
      serial := c.serial }

/-- The replies that the requests of a read queue at once. -/
def queuedReplies (outcome : Nat → Request → Outcome) (mem : Nat → Memory)
    (requests : List (Request × Nat)) : List Bytes :=
  requests.filterMap fun r =>
    (outcome r.2 r.1).result.map fun ret => processRequestReply writeString (mem r.2) r.1.header ret

/-- `_read_query`. -/
def readQuery (w : SignalingWorker) (fd : Int) (now : Nat) (nread : ReadResult)
    (outcome : Nat → Request → Outcome) (fuel : Nat) (mem : Nat → Memory) :
    Option SignalingWorker :=
  if w.OutOfRange fd then some w
  else
    let addr := w.connAt fd
    (w.objects addr).bind fun c =>
      (c.tcp.readQuery (fun n r => (outcome n r).ret) fuel now nread).map fun tcp =>
        let requests := (tcp.requests.zipIdx).drop c.tcp.requests.length
        let c' : Connection :=
          { c with
              tcp
              replyList := c.replyList ++ queuedReplies writeString outcome mem requests }
        let w' : SignalingWorker :=
          { w.setObject addr (some c') with
              pending := w.pending ++ sentMsgs addr c outcome requests }
        if tcp.closed then w'.closeConn addr c' else w'

/-- The loop of `_write_reply`, with the answers of the socket: whether a write
failed, and the connection, if the loop ends. A write of no bytes is tried again. -/
def writeLoop : List Int → Connection → Option (Bool × Connection)
  | [], c => if c.replyList.isEmpty then some (false, c) else none
  | n :: nwritten, c =>
      match c.replyList with
      | [] => some (false, c)
      | reply :: replyList =>
          if n = -1 then some (true, { c with replyList })
          else if n = 0 then writeLoop nwritten c
          else if reply.length ≤ n.toNat + c.curRespPos then
            writeLoop nwritten { c with replyList, curRespPos := 0 }
          else writeLoop nwritten { c with curRespPos := c.curRespPos + n.toNat }

/-- `_write_reply`. -/
def writeReply (w : SignalingWorker) (fd : Int) (now : Nat) (nwritten : List Int) :
    Option SignalingWorker :=
  if fd ≤ 0 ∨ w.OutOfRange fd then some w
  else
    let addr := w.connAt fd
    if addr = nullptr then some w
    else
      (w.objects addr).bind fun c =>
        (writeLoop nwritten c).map fun r =>
          if r.1 then w.closeConn addr r.2
          else
            w.setObject addr (some { r.2 with tcp := { r.2.tcp with lastInteraction := now } })

/-- `_process_timeout`. The difference is one of `unsigned long`. -/
def processTimeout (connectionTimeout : Nat) (w : SignalingWorker) (addr : Address) (now : Nat) :
    Option SignalingWorker :=
  (w.objects addr).map fun c =>
    if connectionTimeout ≤ (now + 2 ^ 64 - c.tcp.lastInteraction) % 2 ^ 64 then w.closeConn addr c
    else w

/-- `_response_server_offer`. -/
def responseServerOffer (w : SignalingWorker) (msg : RtcMsg) (errNo : Int) (sdp : Bytes)
    (mem : Memory) : Option SignalingWorker :=
  if msg.conn = nullptr then some w
  else if msg.fd ≤ 0 ∨ w.OutOfRange msg.fd then some w
  else if w.connAt msg.fd ≠ msg.conn then some w
  else
    (w.objects msg.conn).map fun c =>
      let header := c.tcp.querybuf.take xheadSize
      let reply := responseServerOfferReply writeString mem header errNo sdp
      { w.setObject msg.conn (some { c with replyList := c.replyList ++ [reply] }) with
          replies := w.replies ++ [{ msg, serial := c.serial, header }] }

/-- One event, if the system can produce it. -/
def tryStep (connectionTimeout : Nat) (w : SignalingWorker) : Event → Option SignalingWorker
  | .newConn fd addr now => w.newConn fd addr now
  | .readQuery fd now nread outcome fuel mem =>
      w.readQuery writeString fd now nread outcome fuel mem
  | .writeReply fd now nwritten => w.writeReply fd now nwritten
  | .timeout addr now => w.processTimeout connectionTimeout addr now
  | .answer msg errNo sdp mem =>
      if msg ∈ w.pending then
        { w with pending := w.pending.erase msg }.responseServerOffer writeString msg errNo sdp mem
      else none

/-- One event. -/
def step (connectionTimeout : Nat) (w : SignalingWorker) (e : Event) : SignalingWorker :=
  (w.tryStep writeString connectionTimeout e).getD w

end

end SignalingWorker

end Xrtc.Server
