import Xrtc.Ice.IceConnection

/-!
# `Xrtc.Ice.IceState`: the objects of a transport channel

One `IceTransportChannel` with its `IceController`, its UDP ports and the
connections it has created (`Core`), and the record of what happened to them
(`World`).

Connections are objects on the heap, and several objects keep plain pointers to
them. Pointers are numbers here and the heap gives every address a connection. A
destroyed connection is no longer in `live`, but what its memory holds can still be
read through a pointer that was kept, and the address can be used again for a new
connection. The allocator chooses the address (`Allocator`).

`log` is not part of the program. It lists what the code did, latest first: the
connections it created and destroyed, the pings it sent and the responses it
credited or dropped, the signals of the channel, the packets it sent, and the
state before and after each `_sort_connections_and_update_state`.
-/

set_option autoImplicit false

namespace Xrtc.Ice

open Xrtc.Lib

/-- The address of a connection. -/
abbrev Ptr := Nat

/-- `UDPPort`, once its socket is bound: its credentials, the one candidate it has
gathered, and the connection of each remote address. -/
structure UDPPort where
  iceParams : IceParameters
  localCandidate : Candidate
  connections : SocketAddress → Option Ptr := fun _ => none

/-- `IceController`. The two sets are lists in the order of the addresses. -/
structure IceController where
  selectedConnection : Option Ptr := none
  connections : List Ptr := []
  unpingedConnections : List Ptr := []
  pingedConnections : List Ptr := []
  deriving DecidableEq, Repr

/-- `IceTransportState`. A channel never computes `completed` or `closed`. -/
inductive IceTransportState where
  | new
  | checking
  | connected
  | completed
  | failed
  | disconnected
  | closed
  deriving DecidableEq, Repr

/-- `IceTransportChannel`. -/
structure IceTransportChannel where
  remoteIceParams : IceParameters := {}
  startPinging : Bool := false
  curPingInterval : Int := weakPingInterval
  lastPingSentMs : Int := 0
  selectedConnection : Option Ptr := none
  receiving : Bool := false
  writable : Bool := false
  state : IceTransportState := .new
  hadConnection : Bool := false
  hasBeenConnection : Bool := false
  deriving DecidableEq, Repr

/-- A channel with everything it can reach. `live` holds the addresses of the
connections that exist. -/
structure Core where
  heap : Ptr → IceConnection
  live : List Ptr := []
  ports : Nat → UDPPort
  controller : IceController := {}
  channel : IceTransportChannel := {}

/-- Something the code did. -/
inductive Entry where
  | created (p : Ptr)
  | destroyed (p : Ptr)
  | pinged (p : Ptr) (id : Bytes)
  | answered (p : Ptr) (id : Bytes)
  | writable (value : Bool)
  | receiving (value : Bool)
  | iceState (value : IceTransportState)
  | sent (address : SocketAddress) (data : Bytes)
  | sorted (before after : Core)

/-- A channel with the record of what was done. -/
structure World extends Core where
  log : List Entry := []

/-- `new IceConnection`: an address that is not in use. -/
structure Allocator where
  pick : Core → Ptr
  pick_not_mem : ∀ w, pick w ∉ w.live

/-- A channel as it is constructed, with ports that have seen no packet. The memory
holds anything. -/
def World.init (heap : Ptr → IceConnection) (params : Nat → IceParameters)
    (localCandidate : Nat → Candidate) : World :=
  { heap
    ports := fun i => { iceParams := params i, localCandidate := localCandidate i } }

namespace World

/-- Adds an entry to the record. -/
def push (w : World) (e : Entry) : World := { w with log := e :: w.log }

/-- A change of one connection in memory. -/
def modify (w : World) (p : Ptr) (f : IceConnection → IceConnection) : World :=
  { w with heap := Function.update w.heap p (f (w.heap p)) }

/-- `send_to`: a packet that could be written goes out. -/
def send (w : World) (address : SocketAddress) (data : Option Bytes) : World :=
  match data with
  | none => w
  | some data => w.push (.sent address data)

/-- An entry of the record is no part of the state. -/
@[simp] theorem push_toCore (w : World) (e : Entry) : (w.push e).toCore = w.toCore := rfl

/-- To send a packet changes no state. -/
@[simp] theorem send_toCore (w : World) (address : SocketAddress) (data : Option Bytes) :
    (w.send address data).toCore = w.toCore := by
  cases data <;> rfl

/-- A connection is no part of the channel. -/
@[simp] theorem modify_channel (w : World) (p : Ptr) (f : IceConnection → IceConnection) :
    (w.modify p f).channel = w.channel := rfl

/-- To change it puts nothing down. -/
@[simp] theorem modify_log (w : World) (p : Ptr) (f : IceConnection → IceConnection) :
    (w.modify p f).log = w.log := rfl

/-- The connection itself is changed. -/
@[simp] theorem modify_heap_self (w : World) (p : Ptr) (f : IceConnection → IceConnection) :
    (w.modify p f).heap p = f (w.heap p) := by
  simp [modify]

/-- Every other one is left alone. -/
theorem modify_heap_of_ne (w : World) {p q : Ptr} (f : IceConnection → IceConnection)
    (h : q ≠ p) : (w.modify p f).heap q = w.heap q := by
  simp [modify, h]

end World

end Xrtc.Ice
