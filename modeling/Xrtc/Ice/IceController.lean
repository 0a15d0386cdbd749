import Mathlib.Data.List.Sort
import Xrtc.Ice.IceState

/-!
# `Xrtc.Ice.IceController`: choosing a connection

The model of `rtcserver/src/ice/ice_controller.cpp`. The functions read the
connections in memory, wherever the pointers of the controller point to, and
return the new controller where they change it. The logging calls of the source
read connections as well, but decide nothing and are left out.
-/

set_option autoImplicit false

namespace Xrtc.Ice

open Xrtc.Lib

/-- `std::set::insert`, on the list of the elements in order. -/
def setInsert (p : Ptr) (set : List Ptr) : List Ptr :=
  if p ∈ set then set else set.orderedInsert (· ≤ ·) p

/-- `k_min_improvement`. -/
def kMinImprovement : Int := 10

namespace IceController

/-- `add_connection`. -/
def addConnection (c : IceController) (conn : Ptr) : IceController :=
  { c with
      connections := c.connections ++ [conn]
      unpingedConnections := setInsert conn c.unpingedConnections }

/-- `on_connection_destroyed`. The selected connection stays as it is. -/
def onConnectionDestroyed (c : IceController) (conn : Ptr) : IceController :=
  { c with
      pingedConnections := c.pingedConnections.filter (· ≠ conn)
      unpingedConnections := c.unpingedConnections.filter (· ≠ conn)
      connections := c.connections.filter (· ≠ conn) }

/-- `mark_connection_pinged`. -/
def markConnectionPinged (c : IceController) (conn : Ptr) : IceController :=
  if conn ∈ c.pingedConnections then c
  else
    { c with
        pingedConnections := setInsert conn c.pingedConnections
        unpingedConnections := c.unpingedConnections.filter (· ≠ conn) }

variable (w : Core)

/-! ### Choosing a connection to ping -/

/-- `_weak`. -/
def weak : Bool :=
  match w.controller.selectedConnection with
  | none => true
  | some conn => (w.heap conn).weak

/-- `_get_connection_ping_interval`. -/
def getConnectionPingInterval (conn : Ptr) (now : Int) : Int :=
  if (w.heap conn).numPingsSent < minPingsAtWeakPingInterval then weakPingInterval
  else if weak w || !(w.heap conn).stable now then stablingConnectionPingInterval
  else stableConnectionPingInterval

/-- `_is_connection_past_ping_interval`. -/
def isConnectionPastPingInterval (conn : Ptr) (now : Int) : Bool :=
  decide ((w.heap conn).lastPingSent + getConnectionPingInterval w conn now ≤ now)

/-- `_is_pingable`. -/
def isPingable (conn : Ptr) (now : Int) : Bool :=
  let remote := (w.heap conn).remoteCandidate
  if remote.username = [] ∨ remote.password = [] then false
  else if weak w then true
  else isConnectionPastPingInterval w conn now

/-- `has_pingable_connection`. -/
def hasPingableConnection (now : Int) : Bool :=
  w.controller.connections.any fun conn => isPingable w conn now

/-- `_more_pingable`, with a first connection that is not null. -/
def morePingable (conn1 : Ptr) (conn2 : Option Ptr) : Bool :=
  match conn2 with
  | none => true
  | some conn2 => decide ((w.heap conn1).lastPingSent < (w.heap conn2).lastPingSent)

/-- The last loop of `_find_next_pingable_connection`. -/
def findPingable (now : Int) : List Ptr → Option Ptr → Option Ptr
  | [], findConn => findConn
  | conn :: conns, findConn =>
      if !isPingable w conn now then findPingable now conns findConn
      else if morePingable w conn findConn then findPingable now conns (some conn)
      else findPingable now conns findConn

/-- `_find_next_pingable_connection`: the connection and the controller. -/
def findNextPingableConnection (now : Int) : Option Ptr × IceController :=
  let c := w.controller
  let best := c.selectedConnection.filter fun conn =>
    (w.heap conn).writable && isConnectionPastPingInterval w conn now
  match best with
  | some conn => (some conn, c)
  | none =>
      let c :=
        if c.unpingedConnections.any fun conn => isPingable w conn now then c
        else
          { c with
              unpingedConnections :=
                c.pingedConnections.foldl (fun set conn => setInsert conn set)
                  c.unpingedConnections
              pingedConnections := [] }
      (findPingable w now c.unpingedConnections none, c)

/-- `select_connection_to_ping`: the connection, the ping interval, and the
controller. -/
def selectConnectionToPing (lastPingSentMs now : Int) : Option Ptr × Int × IceController :=
  let needPingMoreAtWeak := w.controller.connections.any fun conn =>
    decide ((w.heap conn).numPingsSent < minPingsAtWeakPingInterval)
  let pingInterval := if weak w || needPingMoreAtWeak then weakPingInterval else strongPingInterval
  if lastPingSentMs + pingInterval ≤ now then
    let r := findNextPingableConnection w now
    (r.1, pingInterval, r.2)
  else (none, pingInterval, w.controller)

/-! ### Choosing a connection to send on -/

/-- `priority` of a connection, which also reads the candidate of its port. -/
def priority (conn : Ptr) : UInt64 :=
  (w.heap conn).priority (w.ports (w.heap conn).port).localCandidate

/-- `_compare_connections`: one if the first connection is better, minus one if the
second is. -/
def compareConnections (a b : Ptr) : Int :=
  let ca := w.heap a
  let cb := w.heap b
  if ca.writable && !cb.writable then 1
  else if !ca.writable && cb.writable then -1
  else if ca.writeState.toNat < cb.writeState.toNat then 1
  else if cb.writeState.toNat < ca.writeState.toNat then -1
  else if ca.receiving && !cb.receiving then 1
  else if !ca.receiving && cb.receiving then -1
  else if priority w b < priority w a then 1
  else if priority w a < priority w b then -1
  else 0

/-- The comparison that `sort_and_switch_connection` sorts by. -/
def sortsBefore (conn1 conn2 : Ptr) : Bool :=
  let cmp := compareConnections w conn1 conn2
  if cmp ≠ 0 then decide (0 < cmp) else decide ((w.heap conn1).rtt < (w.heap conn2).rtt)

/-- `absl::c_stable_sort` on the connections. A connection stays before another one
unless the other sorts before it. -/
def sortConnections : List Ptr :=
  w.controller.connections.insertionSort fun conn1 conn2 => sortsBefore w conn2 conn1 = false

/-- `ready_to_send`. -/
def readyToSend (conn : Option Ptr) : Bool :=
  match conn with
  | none => false
  | some conn => (w.heap conn).writable || (w.heap conn).writeState == .writeUnreliable

/-- `sort_and_switch_connection` after the sort: the connection to switch to, given
the best one. -/
def switchTarget (topConnection : Option Ptr) : Option Ptr :=
  match topConnection with
  | none => none
  | some top =>
      if !readyToSend w (some top) || w.controller.selectedConnection == some top then none
      else
        match w.controller.selectedConnection with
        | none => some top
        | some selected =>
            if (w.heap top).rtt ≤ (w.heap selected).rtt - kMinImprovement then some top else none

/-- `sort_and_switch_connection`. -/
def sortAndSwitchConnection : Option Ptr × IceController :=
  let sorted := sortConnections w
  (switchTarget w sorted.head?, { w.controller with connections := sorted })

end IceController

end Xrtc.Ice
