import Xrtc.Ice.Stun
import Xrtc.Lib.MachineInt

/-!
# `Xrtc.Base.AsyncUdpSocket`: sending on a UDP socket

The model of `send_data` and `send_to` of `rtcserver/src/base/async_udp_socket.cpp`, and of
`start_io_event` and `stop_io_event` of `event_loop.cpp`. A packet that the system does
not take at once is put into `_udp_packet_list` and sent when the descriptor is writable.

What `sock_send_to` returns is given for each call: `outcome k` is the value of the `k`th
one in the call of the socket, negative for an error, zero when the call would block, and
otherwise the bytes sent. The functions give back the calls that they have made.
-/

set_option autoImplicit false

namespace Xrtc.Base

open Xrtc.Lib
open Xrtc.Ice (SocketAddress)

/-! ### The event loop -/

/-- `EventLoop::READ`. -/
def eventRead : UInt8 := 0x1

/-- `EventLoop::WRITE`. -/
def eventWrite : UInt8 := 0x2

/-- The events that a watcher waits for. It is active if there are any. -/
structure IOWatcher where
  events : UInt8
  deriving DecidableEq, Repr

/-- `start_io_event`. -/
def IOWatcher.startIoEvent (w : IOWatcher) (mask : UInt8) : IOWatcher := ⟨w.events ||| mask⟩

/-- `stop_io_event`. -/
def IOWatcher.stopIoEvent (w : IOWatcher) (mask : UInt8) : IOWatcher := ⟨w.events &&& ~~~mask⟩

/-- The watcher waits for the descriptor to become writable. -/
def IOWatcher.writeInterest (w : IOWatcher) : Prop := w.events &&& eventWrite ≠ 0

/-- The socket then waits until it can be written. -/
theorem IOWatcher.writeInterest_startIoEvent (w : IOWatcher) :
    (w.startIoEvent eventWrite).writeInterest := by
  have habsorb : (w.events ||| eventWrite) &&& eventWrite = eventWrite := by
    apply UInt8.eq_of_toBitVec_eq
    ext i hi
    simp only [UInt8.toBitVec_and, UInt8.toBitVec_or, BitVec.getElem_and, BitVec.getElem_or]
    cases w.events.toBitVec[i] <;> cases eventWrite.toBitVec[i] <;> rfl
  show (w.events ||| eventWrite) &&& eventWrite ≠ 0
  rw [habsorb]
  decide

/-! ### The socket -/

/-- `UdpPacketData`. -/
structure UdpPacketData where
  data : Bytes
  addr : SocketAddress
  deriving DecidableEq, Repr

/-- A call of `sock_send_to` and its value. -/
structure SendCall where
  packet : UdpPacketData
  sent : Int
  deriving DecidableEq, Repr

/-- `AsyncUdpSocket`. -/
structure AsyncUdpSocket where
  udpPacketList : List UdpPacketData := []
  socketWatcher : IOWatcher := ⟨eventRead⟩
  deriving DecidableEq, Repr

/-- How the loop over `_udp_packet_list` ends. -/
inductive Backlog where
  | sent
  | again
  | failed
  deriving DecidableEq, Repr

/-- The loop over `_udp_packet_list` that `send_data` and `_add_udp_packet` begin with: the
calls it makes, from the `k`th one on, how it ends and the packets it leaves. -/
def sendBacklog (outcome : Nat → Int) :
    Nat → List UdpPacketData → List SendCall × Backlog × List UdpPacketData
  | _, [] => ([], .sent, [])
  | k, packet :: packets =>
      let sent := outcome k
      if sent < 0 then ([⟨packet, sent⟩], .failed, packets)
      else if sent = 0 then ([⟨packet, sent⟩], .again, packet :: packets)
      else
        let (calls, backlog, rest) := sendBacklog outcome (k + 1) packets
        (⟨packet, sent⟩ :: calls, backlog, rest)

namespace AsyncUdpSocket

/-- `send_data`. -/
def sendData (outcome : Nat → Int) (s : AsyncUdpSocket) : AsyncUdpSocket × List SendCall :=
  match sendBacklog outcome 0 s.udpPacketList with
  | (calls, .sent, packets) => (⟨packets, s.socketWatcher.stopIoEvent eventWrite⟩, calls)
  | (calls, .again, packets) => (⟨packets, s.socketWatcher⟩, calls)
  | (calls, .failed, packets) => (⟨packets, s.socketWatcher⟩, calls)

/-- `_add_udp_packet` from `SEND_AGAIN` on, with the packets that are left in the list. -/
def sendAgain (s : AsyncUdpSocket) (packets : List UdpPacketData) (packet : UdpPacketData) :
    Int × AsyncUdpSocket :=
  (toInt32 packet.data.length,
    ⟨packets ++ [packet], s.socketWatcher.startIoEvent eventWrite⟩)

/-- `_add_udp_packet`: its value, the socket and the calls of `sock_send_to`. -/
def addUdpPacket (outcome : Nat → Int) (s : AsyncUdpSocket) (packet : UdpPacketData) :
    Int × AsyncUdpSocket × List SendCall :=
  match sendBacklog outcome 0 s.udpPacketList with
  | (calls, .failed, packets) => (-1, ⟨packets, s.socketWatcher⟩, calls)
  | (calls, .again, packets) =>
      let (size, s) := s.sendAgain packets packet
      (size, s, calls)
  | (calls, .sent, packets) =>
      let sent := outcome calls.length
      let calls := calls ++ [⟨packet, sent⟩]
      if sent < 0 then (-1, ⟨packets, s.socketWatcher⟩, calls)
      else if sent = 0 then
        let (size, s) := s.sendAgain packets packet
        (size, s, calls)
      else (sent, ⟨packets, s.socketWatcher⟩, calls)

/-- `send_to`. -/
def sendTo (outcome : Nat → Int) (s : AsyncUdpSocket) (data : Bytes) (addr : SocketAddress) :
    Int × AsyncUdpSocket × List SendCall :=
  s.addUdpPacket outcome ⟨data, addr⟩

end AsyncUdpSocket

/-! ### Runs -/

/-- What the owner and the event loop call. -/
inductive SocketEvent where
  | sendTo (data : Bytes) (addr : SocketAddress) (outcome : Nat → Int)
  | sendData (outcome : Nat → Int)

/-- A socket with the packets submitted to it and the calls of `sock_send_to` so far, both
in order. -/
structure SocketRecord where
  socket : AsyncUdpSocket := {}
  submitted : List UdpPacketData := []
  calls : List SendCall := []
  deriving DecidableEq, Repr

/-- The packets that the system has taken. -/
def SocketRecord.sent (r : SocketRecord) : List UdpPacketData :=
  (r.calls.filter fun call => 0 < call.sent).map SendCall.packet

/-- The packets whose own `sock_send_to` has returned an error. -/
def SocketRecord.failed (r : SocketRecord) : List UdpPacketData :=
  (r.calls.filter fun call => call.sent < 0).map SendCall.packet

/-- One call. -/
def SocketRecord.step (r : SocketRecord) : SocketEvent → SocketRecord
  | .sendTo data addr outcome =>
      let (_, socket, calls) := r.socket.sendTo outcome data addr
      ⟨socket, r.submitted ++ [⟨data, addr⟩], r.calls ++ calls⟩
  | .sendData outcome =>
      let (socket, calls) := r.socket.sendData outcome
      ⟨socket, r.submitted, r.calls ++ calls⟩

end Xrtc.Base
