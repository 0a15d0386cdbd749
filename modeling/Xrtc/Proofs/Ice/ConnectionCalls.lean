import Xrtc.Ice.ConnectionCalls
import Xrtc.Proofs.Ice.ChannelActions

/-!
# `Xrtc.Proofs.Ice.ConnectionCalls`: what a call does to a connection

A call can run through the channel: a change of the receiving flag or of the write state
raises `signal_state_change`, and the channel sorts its connections before the call goes
on. The sort changes no more than the selected flag. `PingState` is the part of a
connection that the signals leave alone, and `callEffect` says what a call does to that
part, together with what it adds to the record.
-/

set_option autoImplicit false

namespace Xrtc.Proofs.Ice

open Xrtc.Lib
open Xrtc.Ice
open Xrtc.Ice.IceTransportChannel

/-! ### Through the channel and back -/

/-- The part of a connection that only pings and responses change. -/
structure PingState where
  lastPingSent : Int
  lastPingReceived : Int
  lastPingResponseReceived : Int
  lastDataReceived : Int
  numPingsSent : Nat
  pingsSinceLastResponse : List SentPing
  requests : List StunRequest
  rttSamples : Nat

/-- The fields of a connection that its pings, their responses and the traffic set. -/
def pingState (c : IceConnection) : PingState where
  lastPingSent := c.lastPingSent
  lastPingReceived := c.lastPingReceived
  lastPingResponseReceived := c.lastPingResponseReceived
  lastDataReceived := c.lastDataReceived
  numPingsSent := c.numPingsSent
  pingsSinceLastResponse := c.pingsSinceLastResponse
  requests := c.requests
  rttSamples := c.rttSamples

section

variable (w : World) (p : Ptr) (now : Int)

/-- A sort does not change them. -/
theorem pingState_sort :
    pingState ((sortConnectionsAndUpdateState w now).heap p) = pingState (w.heap p) := by
  obtain ⟨b, hb⟩ := switchedWorld_heap w p
  rw [sort_heap, hb]
  rfl

/-- A sort changes no write state. -/
theorem writeState_sort :
    ((sortConnectionsAndUpdateState w now).heap p).writeState = (w.heap p).writeState := by
  obtain ⟨b, hb⟩ := switchedWorld_heap w p
  rw [sort_heap, hb]

/-- A sort does not change whether a connection receives. -/
theorem receiving_sort :
    ((sortConnectionsAndUpdateState w now).heap p).receiving = (w.heap p).receiving := by
  obtain ⟨b, hb⟩ := switchedWorld_heap w p
  rw [sort_heap, hb]

/-- Neither does `update_receiving`, which sets another field. -/
theorem pingState_updateReceiving :
    pingState ((IceConnection.updateReceiving w p now).heap p) = pingState (w.heap p) := by
  unfold IceConnection.updateReceiving
  dsimp only
  split
  · rfl
  · rw [pingState_sort, World.modify_heap_self]
    rfl

/-- `update_receiving` changes no write state. -/
theorem writeState_updateReceiving :
    ((IceConnection.updateReceiving w p now).heap p).writeState = (w.heap p).writeState := by
  unfold IceConnection.updateReceiving
  dsimp only
  split
  · rfl
  · rw [writeState_sort, World.modify_heap_self]

/-- `update_receiving` leaves the flag at the value it has computed. -/
theorem receiving_updateReceiving :
    ((IceConnection.updateReceiving w p now).heap p).receiving
      = (w.heap p).computeReceiving now := by
  unfold IceConnection.updateReceiving
  dsimp only
  split
  · assumption
  · rw [receiving_sort, World.modify_heap_self]

/-- `set_write_state` sets another field, too. -/
theorem pingState_setWriteState (state : WriteState) :
    pingState ((IceConnection.setWriteState w p state now).heap p) = pingState (w.heap p) := by
  unfold IceConnection.setWriteState
  split
  · rfl
  · rw [pingState_sort, World.modify_heap_self]
    rfl

/-- It sets the write state to what it is given. -/
theorem writeState_setWriteState (state : WriteState) :
    ((IceConnection.setWriteState w p state now).heap p).writeState = state := by
  unfold IceConnection.setWriteState
  split
  · assumption
  · rw [writeState_sort, World.modify_heap_self]

/-- A response that is credited changes them in its first half only. -/
theorem pingState_receivedPingResponse (rtt : Int) :
    pingState ((IceConnection.receivedPingResponse w p rtt now).heap p)
      = pingState ((w.heap p).creditResponse rtt now) := by
  show pingState ((IceConnection.setState _ p .succeeded).heap p) = _
  rw [IceConnection.setState, World.modify_heap_self]
  show pingState ((IceConnection.setWriteState _ p .writable now).heap p) = _
  rw [pingState_setWriteState, pingState_updateReceiving, World.modify_heap_self]

/-- In its second half it makes the connection writable. -/
theorem writeState_receivedPingResponse (rtt : Int) :
    ((IceConnection.receivedPingResponse w p rtt now).heap p).writeState = .writable := by
  show ((IceConnection.setState _ p .succeeded).heap p).writeState = _
  rw [IceConnection.setState, World.modify_heap_self]
  show ((IceConnection.setWriteState _ p .writable now).heap p).writeState = _
  rw [writeState_setWriteState]

/-- The first test of `update_state` only sets the write state. -/
theorem pingState_updateUnreliable :
    pingState ((IceConnection.updateUnreliable w p now).heap p) = pingState (w.heap p) := by
  unfold IceConnection.updateUnreliable
  dsimp only
  split
  · exact pingState_setWriteState w p now .writeUnreliable
  · rfl

/-- So does the second one. -/
theorem pingState_updateTimeout :
    pingState ((IceConnection.updateTimeout w p now).heap p) = pingState (w.heap p) := by
  unfold IceConnection.updateTimeout
  dsimp only
  split
  · exact pingState_setWriteState w p now .writeTimeout
  · rfl

/-- So `update_state` leaves the pings as they are. -/
theorem pingState_updateState :
    pingState ((IceConnection.updateState w p now).heap p) = pingState (w.heap p) := by
  show pingState ((IceConnection.updateReceiving _ p now).heap p) = _
  rw [pingState_updateReceiving, pingState_updateTimeout, pingState_updateUnreliable]

/-- A connection without unanswered pings is neither unreliable nor timed out. -/
theorem writeState_updateState (h : (w.heap p).pingsSinceLastResponse = []) :
    ((IceConnection.updateState w p now).heap p).writeState = (w.heap p).writeState := by
  have hlong : ∀ minTime, (w.heap p).tooLongWithoutResponse minTime now = false := by
    intro minTime
    rw [IceConnection.tooLongWithoutResponse, h]
  have hunreliable : IceConnection.updateUnreliable w p now = w := by
    unfold IceConnection.updateUnreliable
    simp [hlong]
  have htimeout : IceConnection.updateTimeout w p now = w := by
    unfold IceConnection.updateTimeout
    simp [hlong]
  show ((IceConnection.updateReceiving (IceConnection.updateTimeout
    (IceConnection.updateUnreliable w p now) p now) p now).heap p).writeState = _
  rw [writeState_updateReceiving, hunreliable, htimeout]

/-- The memory of a destroyed connection holds what it held. -/
theorem destroy_heap :
    ∃ b, (IceConnection.destroy w p now).heap p = { w.heap p with selected := b } := by
  show ∃ b, (onConnectionDestroyed w p now).heap p = _
  unfold onConnectionDestroyed
  dsimp only
  split
  · rw [sort_heap]
    obtain ⟨b, hb⟩ := switchSelectedConnection_heap
      { w with controller := w.controller.onConnectionDestroyed p } none p
    obtain ⟨b', hb'⟩ := switchedWorld_heap
      (switchSelectedConnection { w with controller := w.controller.onConnectionDestroyed p } none) p
    exact ⟨b', by rw [hb', hb]⟩
  · rw [updateState_heap]
    exact ⟨(w.heap p).selected, rfl⟩

/-- An error response leaves these fields and the write state in the memory of the connection,
also when it destroys it. -/
theorem onConnectionRequestErrorResponse_heap (msg : StunMessage) :
    pingState ((IceConnection.onConnectionRequestErrorResponse w p msg now).heap p)
        = pingState (w.heap p) ∧
      ((IceConnection.onConnectionRequestErrorResponse w p msg now).heap p).writeState
        = (w.heap p).writeState := by
  unfold IceConnection.onConnectionRequestErrorResponse
  dsimp only
  split
  · exact ⟨rfl, rfl⟩
  · obtain ⟨b, hb⟩ := destroy_heap (IceConnection.setState w p .failed) p now
    rw [IceConnection.failAndDestroy, hb, IceConnection.setState, World.modify_heap_self]
    exact ⟨rfl, rfl⟩

end

/-! ### One call -/

/-- What a call does to the connection and adds to the record. -/
inductive CallEffect (c c' : IceConnection) : List Handled → Prop where
  /-- A ping was sent. -/
  | pinged (now : Int) (id : Bytes) (hstate : pingState c' = pingState (c.notePing id now)) :
      CallEffect c c' [.pinged ⟨id, now⟩]
  /-- A response to an outstanding request was credited. -/
  | credited (now : Int) {request : StunRequest} (hmem : request ∈ c.requests)
      (hstate : pingState c'
        = pingState ((c.creditResponse (request.elapsed now) now).removeRequest request.id))
      (hwritable : c'.writeState = .writable) :
      CallEffect c c' [.credited request.id now]
  /-- A request got an answer that is not credited. -/
  | dropped (id : Bytes) (hstate : pingState c' = pingState (c.removeRequest id))
      (hwrite : c'.writeState = c.writeState) : CallEffect c c' []
  /-- A binding request or data came in. -/
  | traffic {h : Handled} (hh : ∀ ping, h ≠ .pinged ping) (hh' : ∀ id now, h ≠ .credited id now)
      (hstate : pingState c' = pingState c) (hwrite : c'.writeState = c.writeState) :
      CallEffect c c' [h]
  /-- Nothing was handled. -/
  | kept (hstate : pingState c' = pingState c)
      (hwrite : c.pingsSinceLastResponse = [] → c'.writeState = c.writeState) : CallEffect c c' []

/-- A request that is deleted leaves the map, and nothing else changes. -/
theorem pingState_deleteRequest (w : World) (p : Ptr) {c : IceConnection} (id : Bytes)
    (h : pingState (w.heap p) = pingState c) :
    pingState ((IceConnection.deleteRequest w p id).heap p) = pingState (c.removeRequest id) := by
  show pingState ((w.modify p fun c => c.removeRequest id).heap p) = _
  rw [World.modify_heap_self]
  have hrequests : (w.heap p).requests = c.requests := congrArg PingState.requests h
  show PingState.mk _ _ _ _ _ _ ((w.heap p).requests.filter (·.id ≠ id)) _ = _
  rw [hrequests]
  exact congrArg (fun s : PingState => { s with requests := c.requests.filter (·.id ≠ id) }) h

/-- The write state does not depend on the map of requests. -/
theorem writeState_deleteRequest (w : World) (p : Ptr) (id : Bytes) :
    ((IceConnection.deleteRequest w p id).heap p).writeState = (w.heap p).writeState := by
  show ((w.modify p fun c => c.removeRequest id).heap p).writeState = _
  rw [World.modify_heap_self]
  rfl

/-- What `check_response` does, and that it has credited the response exactly when
`_rtt_samples` went up. -/
theorem checkResponse_effect (w : World) (p : Ptr) (msg : StunMessage) (now : Int) :
    CallEffect (w.heap p) ((IceConnection.checkResponse w p msg now).heap p)
      (if (w.heap p).rttSamples < ((IceConnection.checkResponse w p msg now).heap p).rttSamples then
        [.credited msg.transactionId now] else []) := by
  unfold IceConnection.checkResponse
  cases hfind : (w.heap p).findRequest msg.transactionId with
  | none =>
      rw [if_neg (Nat.lt_irrefl _)]
      exact .kept rfl fun _ => rfl
  | some request =>
      have hmem : request ∈ (w.heap p).requests := List.mem_of_find?_eq_some hfind
      have hid : request.id = msg.transactionId := by
        simpa using List.find?_some hfind
      -- in all other cases the request is only dropped: no sample, so no credit
      have hdropped : ∀ v : World,
          pingState (v.heap p) = pingState ((w.heap p).removeRequest request.id) →
          (v.heap p).writeState = (w.heap p).writeState →
          CallEffect (w.heap p) (v.heap p)
            (if (w.heap p).rttSamples < (v.heap p).rttSamples then
              [.credited msg.transactionId now] else []) := by
        intro v hstate hwrite
        have hsamples : (v.heap p).rttSamples = (w.heap p).rttSamples :=
          congrArg PingState.rttSamples hstate
        rw [if_neg (Nat.not_lt_of_le (Nat.le_of_eq hsamples))]
        exact .dropped request.id hstate hwrite
      dsimp only
      split
      · -- a success response
        have hstate := pingState_deleteRequest _ p request.id
          (pingState_receivedPingResponse w p now (request.elapsed now))
        have hsamples := congrArg PingState.rttSamples hstate
        rw [if_pos (by
          show (w.heap p).rttSamples < _
          exact Nat.lt_of_lt_of_eq (Nat.lt_succ_self _) hsamples.symm), ← hid]
        refine .credited now hmem hstate ?_
        rw [writeState_deleteRequest, writeState_receivedPingResponse]
      · split
        · -- an error response
          obtain ⟨herror, hwrite⟩ := onConnectionRequestErrorResponse_heap w p now msg
          refine hdropped _ (pingState_deleteRequest _ p request.id herror) ?_
          rw [writeState_deleteRequest, hwrite]
        · -- a response of another type
          refine hdropped _ (pingState_deleteRequest w p request.id rfl) ?_
          rw [writeState_deleteRequest]

section

variable (digest : MessageDigest) (p : Ptr) (w : World)

/-- A packet changes no connection. -/
theorem send_heap (address : SocketAddress) (data : Option Bytes) :
    (w.send address data).heap = w.heap := by
  rw [World.send_toCore]

/-- A binding request is answered and changes no connection. -/
theorem handleStunBindingRequest_heap (msg : StunMessage) :
    (IceConnection.handleStunBindingRequest digest w p msg).heap = w.heap := by
  unfold IceConnection.handleStunBindingRequest
  split
  · rfl
  · exact send_heap w _ _

/-- What `on_read_packet` does, for requests, for responses and for what is no STUN message. A
response changes the connection only with a valid integrity. -/
theorem onReadPacket_effect (data : Bytes) (now : Int) :
    CallEffect (w.heap p) ((IceConnection.onReadPacket digest w p data now).heap p)
      (handledPacket digest p w (IceConnection.onReadPacket digest w p data now) data now) := by
  unfold handledPacket
  cases hreceived : UDPPort.getStunMessage digest (w.ports (w.heap p).port) data with
  | notStun =>
      have hafter : IceConnection.onReadPacket digest w p data now = w := by
        simp only [IceConnection.onReadPacket, hreceived]
      rw [hafter]
      -- no STUN message at all: a packet for the layers above
      exact .traffic (fun _ => Handled.noConfusion) (fun _ _ => Handled.noConfusion) rfl rfl
  | rejected msg errCode reason =>
      have hafter : (IceConnection.onReadPacket digest w p data now).heap = w.heap := by
        simp only [IceConnection.onReadPacket, hreceived]
        exact send_heap w _ _
      rw [hafter]
      exact .kept rfl fun _ => rfl
  | accepted msg remoteUfrag =>
      dsimp only
      by_cases hrequest : msg.type = stunBindingRequest
      · -- a binding request leaves the connection as it is
        have hafter : (IceConnection.onReadPacket digest w p data now).heap = w.heap := by
          simp only [IceConnection.onReadPacket, hreceived, if_pos hrequest]
          split
          · exact send_heap w _ _
          · exact handleStunBindingRequest_heap digest p w msg
        rw [if_pos hrequest, hafter]
        split
        · exact .traffic (fun _ => Handled.noConfusion) (fun _ _ => Handled.noConfusion) rfl rfl
        · exact .kept rfl fun _ => rfl
      · rw [if_neg hrequest]
        by_cases hresponse : (msg.type = stunBindingResponse ∨ msg.type = stunBindingErrorResponse) ∧
            (msg.validateMessageIntegrity digest (w.heap p).remoteCandidate.password).integrity
              = .integrityOk
        · -- an authenticated response goes to the request manager
          have hafter : IceConnection.onReadPacket digest w p data now
              = IceConnection.checkResponse w p
                (msg.validateMessageIntegrity digest (w.heap p).remoteCandidate.password) now := by
            simp only [IceConnection.onReadPacket, hreceived, if_neg hrequest, if_pos hresponse.1,
              if_pos hresponse.2]
          have hid : (msg.validateMessageIntegrity digest
              (w.heap p).remoteCandidate.password).transactionId = msg.transactionId := by
            unfold StunMessage.validateMessageIntegrity
            dsimp only
            split_ifs <;> rfl
          rw [hafter, ← hid]
          exact checkResponse_effect w p _ now
        · -- a response that does not verify, or any other message, is ignored
          have hafter : IceConnection.onReadPacket digest w p data now = w := by
            simp only [IceConnection.onReadPacket, hreceived, if_neg hrequest]
            split_ifs with htype hintegrity
            · exact absurd ⟨htype, hintegrity⟩ hresponse
            · rfl
            · rfl
          rw [hafter, if_neg (Nat.lt_irrefl _)]
          exact .kept rfl fun _ => rfl

/-- The effect of a call on its connection, by the cases of the call. The lemmas about runs use
only this. -/
theorem callEffect (call : Call) :
    CallEffect (w.heap p) ((afterCall digest p w call).heap p)
      (handled digest p w (afterCall digest p w call) call) := by
  cases call with
  | ping now id =>
      refine .pinged now id ?_
      show pingState ((World.send _ _ _).heap p) = _
      rw [send_heap]
      show pingState ((w.modify p fun c => c.notePing id now).heap p) = _
      rw [World.modify_heap_self]
  | packet data now => exact onReadPacket_effect digest p w data now
  | request msg now =>
      have hafter := handleStunBindingRequest_heap digest p w msg
      refine .traffic (fun _ => Handled.noConfusion) (fun _ _ => Handled.noConfusion) ?_ ?_
      · show pingState ((IceConnection.handleStunBindingRequest digest w p msg).heap p) = _
        rw [hafter]
      · show ((IceConnection.handleStunBindingRequest digest w p msg).heap p).writeState = _
        rw [hafter]
  | updateState now =>
      exact .kept (pingState_updateState w p now) (writeState_updateState w p now)
  | others v =>
      refine .kept ?_ fun _ => ?_
      · show pingState (Function.update v.heap p _ p) = _
        rw [Function.update_self]
        rfl
      · show (Function.update v.heap p _ p).writeState = _
        rw [Function.update_self]

/-- What a call handles is handled when the call is made, so the times of the record are those of
the calls. -/
theorem time_of_handled {w' : World} {call : Call} {h : Handled}
    (hmem : h ∈ handled digest p w w' call) : call.time = some h.time := by
  cases call with
  | ping now id =>
      rw [List.mem_singleton.mp hmem]
      rfl
  | packet data now =>
      show some now = some h.time
      simp only [handled, handledPacket] at hmem
      split at hmem
      · rw [List.mem_singleton.mp hmem]
        rfl
      · cases hmem
      · split_ifs at hmem
        · rw [List.mem_singleton.mp hmem]
          rfl
        · cases hmem
        · rw [List.mem_singleton.mp hmem]
          rfl
        · cases hmem
  | request msg now =>
      rw [List.mem_singleton.mp hmem]
      rfl
  | updateState now => cases hmem
  | others v => cases hmem

/-- Only a ping is handled as one. -/
theorem pingId_of_handled {w' : World} {call : Call} {ping : SentPing}
    (hmem : .pinged ping ∈ handled digest p w w' call) : call.pingId = some ping.id := by
  cases call with
  | ping now id =>
      cases List.mem_singleton.mp hmem
      rfl
  | packet data now =>
      simp only [handled, handledPacket] at hmem
      split at hmem
      · cases List.mem_singleton.mp hmem
      · cases hmem
      · split_ifs at hmem
        · cases List.mem_singleton.mp hmem
        · cases hmem
        · cases List.mem_singleton.mp hmem
        · cases hmem
  | request msg now => cases List.mem_singleton.mp hmem
  | updateState now => cases hmem
  | others v => cases hmem

end

/-! ### The record of a run -/

/-- The record so far and the calls to come are in the order of their times. -/
structure InTime (record : List Handled) (calls : List Call) : Prop where
  ordered : record.Pairwise fun later earlier => earlier.time ≤ later.time
  clock : (calls.filterMap Call.time).Pairwise (· ≤ ·)
  between : ∀ h ∈ record, ∀ t ∈ calls.filterMap Call.time, h.time ≤ t

/-- The record after a call. -/
theorem callStep_record (digest : MessageDigest) (p : Ptr) (s : ConnectionRun) (call : Call) :
    ∃ new, (callStep digest p s call).record = new ++ s.record ∧ new.length ≤ 1 ∧
      (∀ h ∈ new, call.time = some h.time) ∧
      (∀ ping, .pinged ping ∈ new → call.pingId = some ping.id) ∧
      CallEffect (s.world.heap p) ((callStep digest p s call).world.heap p) new := by
  unfold callStep
  split
  · have heffect := callEffect digest p s.world call
    refine ⟨_, rfl, ?_, fun h hmem => time_of_handled digest p s.world hmem,
      fun ping hmem => pingId_of_handled digest p s.world hmem, heffect⟩
    generalize handled digest p s.world (afterCall digest p s.world call) call = new at heffect
    cases heffect <;> simp
  · refine ⟨[], rfl, Nat.zero_le 1, ?_, ?_, .kept rfl fun _ => rfl⟩
    · intro h hmem
      cases hmem
    · intro ping hmem
      cases hmem

/-- Calls that come in time go on to do so after each of them: the time of a call is what the
later ones are compared with. -/
theorem InTime.step {digest : MessageDigest} {p : Ptr} {s : ConnectionRun} {call : Call}
    {calls : List Call} (h : InTime s.record (call :: calls)) :
    InTime (callStep digest p s call).record calls := by
  obtain ⟨new, hrecord, hone, htime, -, -⟩ := callStep_record digest p s call
  have hsub : ∀ t ∈ calls.filterMap Call.time, t ∈ (call :: calls).filterMap Call.time := by
    intro t ht
    obtain ⟨c, hc, hct⟩ := List.mem_filterMap.mp ht
    exact List.mem_filterMap.mpr ⟨c, List.mem_cons_of_mem call hc, hct⟩
  have hnow : ∀ e ∈ new, e.time ∈ (call :: calls).filterMap Call.time := by
    intro e he
    exact List.mem_filterMap.mpr ⟨call, List.mem_cons_self, htime e he⟩
  have hclock := h.clock
  rw [hrecord]
  refine ⟨?_, ?_, ?_⟩
  · rw [List.pairwise_append]
    refine ⟨?_, h.ordered, fun e he e' he' => h.between e' he' e.time (hnow e he)⟩
    -- a call writes at most one entry down
    match new, hone with
    | [], _ => exact List.Pairwise.nil
    | [e], _ => exact List.pairwise_singleton _ e
  · rw [List.filterMap_cons] at hclock
    split at hclock
    · exact hclock
    · exact hclock.of_cons
  · intro e he t ht
    rcases List.mem_append.mp he with he | he
    · rw [List.filterMap_cons, htime e he] at hclock
      exact List.rel_of_pairwise_cons hclock ht
    · exact h.between e he t (hsub t ht)

end Xrtc.Proofs.Ice
