import Xrtc.Ice.UdpPort

/-!
# `Xrtc.Ice.ConnectionCalls`: the life of one connection

What is done to a connection from its construction on, one call after the other: it
pings, it is given the datagrams that arrive from its remote address, and its state is
updated. The first binding request reaches it through the channel, before there is a
connection for the address. Between two calls the channel does anything else, which can
change the remote candidate and the selected flag of the connection and nothing more.

`record` is not part of the program. It lists what the connection has handled, latest
first. That a response is credited is read off `_rtt_samples`, which nothing but
`received_ping_response` increments.
-/

set_option autoImplicit false

namespace Xrtc.Ice

open Xrtc.Lib

/-- A call on a connection. -/
inductive Call where
  /-- `ping`, with the transaction id it draws. -/
  | ping (now : Int) (id : Bytes)
  /-- `on_read_packet`. -/
  | packet (data : Bytes) (now : Int)
  /-- `handle_stun_binding_request`, from `_on_unknown_address`. -/
  | request (msg : StunMessage) (now : Int)
  /-- `update_state`. -/
  | updateState (now : Int)
  /-- What the channel does elsewhere. -/
  | others (w : World)

/-- When a call is made. -/
def Call.time : Call → Option Int
  | .ping now _ => some now
  | .packet _ now => some now
  | .request _ now => some now
  | .updateState now => some now
  | .others _ => none

/-- The transaction id of a ping. -/
def Call.pingId : Call → Option Bytes
  | .ping _ id => some id
  | _ => none

/-- Something a connection has handled. -/
inductive Handled where
  | pinged (ping : SentPing)
  | credited (id : Bytes) (now : Int)
  | request (now : Int)
  | data (now : Int)
  deriving DecidableEq, Repr

/-- A channel, with what one of its connections has handled. -/
structure ConnectionRun where
  world : World
  record : List Handled := []

section

variable (digest : MessageDigest) (p : Ptr)

/-- The channel after a call. -/
def afterCall (w : World) : Call → World
  | .ping now id => IceConnection.ping digest w p now id
  | .packet data now => IceConnection.onReadPacket digest w p data now
  | .request msg _ => IceConnection.handleStunBindingRequest digest w p msg
  | .updateState now => IceConnection.updateState w p now
  | .others v =>
      let c := { w.heap p with
        selected := (v.heap p).selected
        remoteCandidate := (v.heap p).remoteCandidate }
      { v with heap := Function.update v.heap p c }

/-- What a packet was to the connection, from the channel before and after it. -/
def handledPacket (w w' : World) (data : Bytes) (now : Int) : List Handled :=
  match UDPPort.getStunMessage digest (w.ports (w.heap p).port) data with
  | .notStun => [.data now]
  | .rejected _ _ _ => []
  | .accepted msg remoteUfrag =>
      if msg.type = stunBindingRequest then
        if remoteUfrag = (w.heap p).remoteCandidate.username then [.request now] else []
      else if (w.heap p).rttSamples < (w'.heap p).rttSamples then
        [.credited msg.transactionId now]
      else []

/-- What a call was to the connection. -/
def handled (w w' : World) : Call → List Handled
  | .ping now id => [.pinged ⟨id, now⟩]
  | .packet data now => handledPacket digest p w w' data now
  | .request _ now => [.request now]
  | .updateState _ => []
  | .others _ => []

/-- A call on a connection that exists. -/
def callStep (s : ConnectionRun) (call : Call) : ConnectionRun :=
  if p ∈ s.world.live then
    let w := afterCall digest p s.world call
    { world := w, record := handled digest p s.world w call ++ s.record }
  else s

end

/-! ### Reading the record -/

/-- The pings, the latest first. -/
def pinged : List Handled → List SentPing
  | [] => []
  | .pinged ping :: record => ping :: pinged record
  | _ :: record => pinged record

/-- The transaction ids that were credited, the latest first. -/
def creditedIds : List Handled → List Bytes
  | [] => []
  | .credited id _ :: record => id :: creditedIds record
  | _ :: record => creditedIds record

/-- The pings since the last credited response, in the order they were sent. -/
def unanswered : List Handled → List SentPing
  | [] => []
  | .pinged ping :: record => unanswered record ++ [ping]
  | .credited _ _ :: _ => []
  | _ :: record => unanswered record

/-- When the last ping was sent, 0 if there is none. -/
def lastPinged : List Handled → Int
  | [] => 0
  | .pinged ping :: _ => ping.sentTime
  | _ :: record => lastPinged record

/-- When the last response was credited, 0 if none was. -/
def lastCredited : List Handled → Int
  | [] => 0
  | .credited _ now :: _ => now
  | _ :: record => lastCredited record

/-- A response was credited since the last ping was sent. -/
def creditedSincePing : List Handled → Bool
  | [] => false
  | .pinged _ :: _ => false
  | .credited _ _ :: _ => true
  | _ :: record => creditedSincePing record

/-- When something was handled. -/
def Handled.time : Handled → Int
  | .pinged ping => ping.sentTime
  | .credited _ now => now
  | .request now => now
  | .data now => now

/-- Something from the peer was handled: a credited response, a request or data. -/
def Handled.isTraffic : Handled → Bool
  | .pinged _ => false
  | _ => true

end Xrtc.Ice
