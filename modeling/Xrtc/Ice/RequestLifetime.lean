import Xrtc.Ice.IceTransportChannel
import Xrtc.Lib.Lifetime

/-!
# `Xrtc.Ice.RequestLifetime`: the objects behind the pings of a connection

`ping` creates a `ConnectionRequest` on the heap and hands it to the connection's
`StunRequestManager`, which keeps a pointer to it in a map. `check_response` deletes the
request of a response, and the manager's destructor deletes those that are left. The
manager is a member of the connection, so it goes when the connection does.

The functions here list what the code of `stun_request.cpp` and `ice_connection.cpp` does
to these objects, in the order it does it. A use is an access to a member or a call of a
method. A request is named by its transaction id. Signals are left out, but for the use of
their arguments: they do not delete any of the three kinds of objects.
-/

set_option autoImplicit false

namespace Xrtc.Ice

open Xrtc.Lib
open Xrtc.Lib.Lifetime

/-- An object with a life time. -/
inductive StunObject where
  | connection
  | manager
  | request (id : Bytes)
  deriving DecidableEq

namespace Trace

/-- `~StunRequest`, with `StunRequestManager::remove`, and the deletion. -/
def deleteRequest (id : Bytes) : List (Op StunObject) :=
  [.use (.request id), .use .manager, .use (.request id), .delete (.request id)]

/-- The loop of `~StunRequestManager`. -/
def deleteRequests (requests : List StunRequest) : List (Op StunObject) :=
  requests.flatMap fun request => .use .manager :: deleteRequest request.id

/-- `~IceConnection`, whose body is empty, with the destructor of its member. -/
def deleteConnection (c : IceConnection) : List (Op StunObject) :=
  deleteRequests c.requests ++ [.use .manager, .delete .manager, .delete .connection]

/-- `destroy`: the signal with the connection as its argument, and `delete this`. -/
def destroy (c : IceConnection) : List (Op StunObject) :=
  .use .connection :: deleteConnection c

/-- `on_connection_request_response`: `elapsed`, and `received_ping_response`. -/
def onConnectionRequestResponse (id : Bytes) : List (Op StunObject) :=
  [.use (.request id), .use .connection]

/-- `on_connection_request_error_response`. -/
def onConnectionRequestErrorResponse (c : IceConnection) (id : Bytes) (msg : StunMessage) :
    List (Op StunObject) :=
  let errorCode := msg.getErrorCodeValue
  [.use (.request id), .use .connection] ++
    if errorCode = stunErrorUnauthorized ∨ errorCode = stunErrorUnknownAttribute ∨
        errorCode = stunErrorServerError then []
    else
      -- `fail_and_destroy`
      .use .connection :: destroy c

/-- `StunRequestManager::check_response`. -/
def checkResponse (c : IceConnection) (msg : StunMessage) : List (Op StunObject) :=
  .use .manager ::
    match c.findRequest msg.transactionId with
    | none => []
    | some request =>
        .use (.request request.id) ::
          (if (msg.type.toNat : Int) = getStunSuccessResponse request.type then
            .use (.request request.id) :: onConnectionRequestResponse request.id
          else if (msg.type.toNat : Int) = getStunErrorResponse request.type then
            .use (.request request.id) :: onConnectionRequestErrorResponse c request.id msg
          else []) ++ deleteRequest request.id

/-- `ping`, with `StunRequestManager::send`, `ConnectionRequest::prepare` and
`StunRequest::send`. -/
def ping (id : Bytes) : List (Op StunObject) :=
  [.use .connection, .create (.request id), .use (.request id), .use .connection] ++
    [.use .manager, .use (.request id), .use .connection, .use .manager] ++
    [.use (.request id), .use .manager, .use .connection, .use .connection]

end Trace

/-- A ping of a connection, with its transaction id, or a response that the connection has
authenticated. -/
inductive RequestEvent where
  | ping (now : Int) (id : Bytes)
  | response (msg : StunMessage) (now : Int)

/-- The transaction id of a ping. -/
def RequestEvent.pingId : RequestEvent → Option Bytes
  | .ping _ id => some id
  | .response _ _ => none

/-- A channel, with what was done to the objects of one of its connections. -/
structure TracedRun where
  world : World
  trace : List (Op StunObject)

/-- A connection that was just constructed. -/
def TracedRun.start (w : World) : TracedRun :=
  { world := w, trace := [.create .connection, .create .manager] }

/-- An event of a connection that exists. -/
def traceStep (digest : MessageDigest) (p : Ptr) (s : TracedRun) (e : RequestEvent) : TracedRun :=
  if p ∈ s.world.live then
    match e with
    | .ping now id =>
        { world := IceConnection.ping digest s.world p now id
          trace := s.trace ++ Trace.ping id }
    | .response msg now =>
        { world := IceConnection.checkResponse s.world p msg now
          trace := s.trace ++ Trace.checkResponse (s.world.heap p) msg }
  else s

/-- The trace with the destruction of the connection, if it still exists. -/
def destroyedTrace (p : Ptr) (s : TracedRun) : List (Op StunObject) :=
  if p ∈ s.world.live then s.trace ++ Trace.destroy (s.world.heap p) else s.trace

end Xrtc.Ice
