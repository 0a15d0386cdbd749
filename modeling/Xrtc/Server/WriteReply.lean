import Xrtc.Base.AsyncUdpSocket
import Xrtc.Server.Connections

/-!
# `Xrtc.Server.WriteReply`: a connection that writes its replies

The model of `_add_reply` and `_write_reply` of `rtcserver/src/server/signaling_worker.cpp`, and
of `sock_write_data` of `base/socket.cpp`, for one connection. In `Xrtc.Server.Connections` a
call of `_write_reply` is one step, with all the answers of the socket. Here a call can stand in
front of the next `sock_write_data`, for as long as the socket pleases.

A `WriteRun` records what has been queued and what the socket has taken.
-/

set_option autoImplicit false

namespace Xrtc.Server

open Xrtc.Lib
open Xrtc.Base (IOWatcher eventRead eventWrite)

/-! ### The socket -/

/-- The error numbers that `sock_write_data` tells apart. -/
inductive Errno where
  | eagain
  | ewouldblock
  | other
  deriving DecidableEq, Repr

/-- What `write` returns: the number of bytes that it has taken, or an error. -/
inductive SysWrite where
  | bytes (n : Nat)
  | error (errno : Errno)
  deriving DecidableEq, Repr

/-- `write` takes no more bytes than there are. -/
def SysWrite.Within : SysWrite → Nat → Prop
  | .bytes n, len => n ≤ len
  | .error _, _ => True

instance SysWrite.Within.decidable (answer : SysWrite) (len : Nat) :
    Decidable (answer.Within len) :=
  match answer with
  | .bytes n => inferInstanceAs (Decidable (n ≤ len))
  | .error _ => inferInstanceAs (Decidable True)

/-- `sock_write_data`, with what `write` returns. -/
def sockWriteData : SysWrite → Int
  | .bytes n => n
  | .error errno => if errno = .eagain ∨ errno = .ewouldblock then 0 else -1

/-! ### The connection -/

/-- A slice in `reply_list`. A reply starts with a header, so it is not empty. -/
structure Reply where
  bytes : Bytes
  ne_nil : bytes ≠ []
  deriving DecidableEq

/-- The fields of a `TcpConnection` that replies are written with. -/
structure ReplyWriter where
  replyList : List Reply := []
  curRespPos : Nat := 0
  ioWatcher : IOWatcher := ⟨eventRead⟩
  deriving DecidableEq

/-- How far a call of `_write_reply` is: in front of the next `sock_write_data`, or back in the
event loop, with the connection open or closed. -/
inductive WriteCall where
  | writing (c : ReplyWriter)
  | returned (c : ReplyWriter)
  | closed (c : ReplyWriter)

namespace ReplyWriter

/-- `_add_reply`. -/
def addReply (c : ReplyWriter) (reply : Reply) : ReplyWriter :=
  { c with
      replyList := c.replyList ++ [reply]
      ioWatcher := c.ioWatcher.startIoEvent eventWrite }

/-- The condition of the loop in `_write_reply`, and what follows the loop. -/
def loop (c : ReplyWriter) : WriteCall :=
  if c.replyList.isEmpty then
    .returned { c with ioWatcher := c.ioWatcher.stopIoEvent eventWrite }
  else .writing c

/-- The bytes that the loop calls `sock_write_data` with. -/
def toWrite (c : ReplyWriter) : Bytes :=
  match c.replyList with
  | [] => []
  | reply :: _ => reply.bytes.drop c.curRespPos

/-- The rest of the round, once `sock_write_data` has returned. -/
def round (c : ReplyWriter) (nwritten : Int) : WriteCall :=
  match c.replyList with
  | [] => c.loop
  | reply :: replyList =>
      if nwritten = -1 then .closed { c with replyList }
      -- a socket that would block is logged, and tried again
      else if nwritten = 0 then c.loop
      else if reply.bytes.length ≤ nwritten.toNat + c.curRespPos then
        { c with replyList, curRespPos := 0 : ReplyWriter }.loop
      else { c with curRespPos := c.curRespPos + nwritten.toNat : ReplyWriter }.loop

end ReplyWriter

namespace WriteCall

/-- The connection, unless an error has closed it. -/
def open? : WriteCall → Option ReplyWriter
  | .writing c => some c
  | .returned c => some c
  | .closed _ => none

/-- One answer of the socket. A call that is back in the event loop waits for none. -/
def next (call : WriteCall) (nwritten : Int) : WriteCall :=
  match call with
  | .writing c => c.round nwritten
  | .returned c => .returned c
  | .closed c => .closed c

end WriteCall

/-- A call of `_write_reply` after some answers of the socket. -/
def ReplyWriter.writeReply (c : ReplyWriter) (answers : Nat → SysWrite) : Nat → WriteCall
  | 0 => c.loop
  | k + 1 => (c.writeReply answers k).next (sockWriteData (answers k))

/-! ### Runs -/

/-- A connection, with the replies queued on it and the bytes that the socket has taken. -/
structure WriteRun where
  call : WriteCall := .returned {}
  queued : List Reply := []
  written : Bytes := []

/-- What happens to a connection: a reply is queued, the descriptor is writable, and `write`
returns. -/
inductive WriteEvent where
  | addReply (reply : Reply)
  | writeReply
  | answer (answer : SysWrite)

/-- One event, if it can happen. The event loop has one thread, so nothing is queued during a
call of `_write_reply`. -/
def WriteRun.step (s : WriteRun) : WriteEvent → Option WriteRun
  | .addReply reply =>
      match s.call with
      | .returned c =>
          some { s with call := .returned (c.addReply reply), queued := s.queued ++ [reply] }
      | .writing _ => none
      | .closed _ => none
  | .writeReply =>
      match s.call with
      | .returned c => some { s with call := c.loop }
      | .writing _ => none
      | .closed _ => none
  | .answer answer =>
      match s.call with
      | .writing c =>
          if answer.Within c.toWrite.length then
            let nwritten := sockWriteData answer
            some
              { s with
                  call := c.round nwritten
                  written := s.written ++ c.toWrite.take nwritten.toNat }
          else none
      | .returned _ => none
      | .closed _ => none

end Xrtc.Server
