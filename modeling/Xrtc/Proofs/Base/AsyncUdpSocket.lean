import Xrtc.Base.AsyncUdpSocket
import Xrtc.Lib.Run

/-!
# `Xrtc.Proofs.Base.AsyncUdpSocket`: what becomes of the packets submitted

Every packet submitted should be sent, failed by its own `sock_send_to`, or still be
queued, and the packets of each kind in the order of submission (`Accounted`).

The loop over the queue takes packets from its front and leaves the rest
(`sendBacklog_spec`), and a new packet is sent at once only behind an empty queue. So the
packets that are done are always in front of those that are queued (`InOrder`). There is
one way to lose a packet: when a queued packet fails, `_add_udp_packet` returns without
the new one. `always_accounted_iff` says that this is the only one.
-/

set_option autoImplicit false

namespace Xrtc.Proofs.Base

open Xrtc.Lib
open Xrtc.Base

/-! ### The fate of a packet -/

/-- What becomes of a packet submitted. -/
inductive Fate where
  | sent
  | failed
  | queued
  deriving DecidableEq, Repr

/-- The packets with a fate. -/
def withFate (fate : Fate) (history : List (UdpPacketData × Fate)) : List UdpPacketData :=
  (history.filter fun entry => entry.2 = fate).map Prod.fst

/-- The packets of one fate are found in each part of a history. -/
theorem withFate_append (fate : Fate) (history history' : List (UdpPacketData × Fate)) :
    withFate fate (history ++ history') = withFate fate history ++ withFate fate history' := by
  unfold withFate
  rw [List.filter_append, List.map_append]

/-- There are as many packets as the three fates have together. -/
theorem length_withFate (history : List (UdpPacketData × Fate)) :
    (withFate .sent history).length + (withFate .failed history).length
      + (withFate .queued history).length = history.length := by
  induction history with
  | nil => rfl
  | cons entry history ih =>
      obtain ⟨packet, fate⟩ := entry
      rw [← List.singleton_append, withFate_append, withFate_append, withFate_append]
      simp only [List.length_append]
      cases fate <;> simp [withFate] at ih ⊢ <;> omega

/-- Every packet submitted has a fate. The packets that the system has taken, those whose
own `sock_send_to` returned an error and those in the queue are the packets with each of
them, in the order of submission. The socket waits for the descriptor to become writable as
long as packets are queued. -/
structure Accounted (r : SocketRecord) : Prop where
  history : ∃ history : List (UdpPacketData × Fate),
    history.map Prod.fst = r.submitted ∧ withFate .sent history = r.sent ∧
      withFate .failed history = r.failed ∧
      withFate .queued history = r.socket.udpPacketList
  writeInterest : r.socket.udpPacketList ≠ [] → r.socket.socketWatcher.writeInterest

/-- An error for a packet of the backlog, from the `k`th call on, in front of which all
packets are sent. -/
def BacklogFails (outcome : Nat → Int) : Nat → List UdpPacketData → Prop
  | _, [] => False
  | k, _ :: packets => outcome k < 0 ∨ (0 < outcome k ∧ BacklogFails outcome (k + 1) packets)

/-- A packet is submitted while one of the queue fails. -/
def LosesPacket (r : SocketRecord) : SocketEvent → Prop
  | .sendTo _ _ outcome => BacklogFails outcome 0 r.socket.udpPacketList
  | .sendData _ => False

/-! ### The loop over the queue -/

/-- The packets of some calls that were sent. -/
def sentOf (calls : List SendCall) : List UdpPacketData :=
  (calls.filter fun call => 0 < call.sent).map SendCall.packet

/-- The packets of some calls that failed. -/
def failedOf (calls : List SendCall) : List UdpPacketData :=
  (calls.filter fun call => call.sent < 0).map SendCall.packet

/-- So are the packets sent among the calls. -/
theorem sentOf_append (calls calls' : List SendCall) :
    sentOf (calls ++ calls') = sentOf calls ++ sentOf calls' := by
  unfold sentOf
  rw [List.filter_append, List.map_append]

/-- And those that failed. -/
theorem failedOf_append (calls calls' : List SendCall) :
    failedOf (calls ++ calls') = failedOf calls ++ failedOf calls' := by
  unfold failedOf
  rw [List.filter_append, List.map_append]

/-- Packets that are done with, each of them sent or failed, and the calls for them. -/
structure Done (calls : List SendCall) (history : List (UdpPacketData × Fate)) : Prop where
  sent : withFate .sent history = sentOf calls
  failed : withFate .failed history = failedOf calls
  queued : withFate .queued history = []

/-- Two runs of calls account for their histories one behind the other. -/
theorem Done.append {calls calls' : List SendCall} {history history' : List (UdpPacketData × Fate)}
    (h : Done calls history) (h' : Done calls' history') :
    Done (calls ++ calls') (history ++ history') := by
  refine ⟨?_, ?_, ?_⟩
  · rw [withFate_append, sentOf_append, h.sent, h'.sent]
  · rw [withFate_append, failedOf_append, h.failed, h'.failed]
  · rw [withFate_append, h.queued, h'.queued, List.append_nil]

/-- No calls account for no history. -/
theorem done_nil : Done [] [] := ⟨rfl, rfl, rfl⟩

/-- A call with a positive result accounts for one packet sent. -/
theorem done_sent {packet : UdpPacketData} {sent : Int} (h : 0 < sent) :
    Done [⟨packet, sent⟩] [(packet, .sent)] := by
  refine ⟨?_, ?_, rfl⟩
  · simp [withFate, sentOf, h]
  · simp [withFate, failedOf, h.le]

/-- A call with a negative one accounts for one packet dropped. -/
theorem done_failed {packet : UdpPacketData} {sent : Int} (h : sent < 0) :
    Done [⟨packet, sent⟩] [(packet, .failed)] := by
  refine ⟨?_, ?_, rfl⟩
  · simp [withFate, sentOf, h.le]
  · simp [withFate, failedOf, h]

/-- A packet that the system does not take yet is not done with. -/
theorem done_again (packet : UdpPacketData) : Done [⟨packet, 0⟩] [] := ⟨rfl, rfl, rfl⟩

/-- The loop takes packets from the front of the queue that are done with then. It leaves
none if all are sent, and it fails exactly in the way that loses a new packet. -/
theorem sendBacklog_spec (outcome : Nat → Int) (packets : List UdpPacketData) :
    ∀ k, ∃ history,
      Done (sendBacklog outcome k packets).1 history ∧
        packets = history.map Prod.fst ++ (sendBacklog outcome k packets).2.2 ∧
        ((sendBacklog outcome k packets).2.1 = .sent →
          (sendBacklog outcome k packets).2.2 = []) ∧
        ((sendBacklog outcome k packets).2.1 = .failed ↔ BacklogFails outcome k packets) := by
  -- on the backlog: it is sent from the front up to the first packet that is not
  induction packets with
  | nil => exact fun k => ⟨[], done_nil, rfl, fun _ => rfl, by simp [sendBacklog, BacklogFails]⟩
  | cons packet packets ih =>
      intro k
      rw [sendBacklog, BacklogFails]
      dsimp only
      by_cases hneg : outcome k < 0
      · rw [if_pos hneg]
        exact ⟨[(packet, .failed)], done_failed hneg, rfl, fun h => absurd h (by simp),
          by simp [hneg]⟩
      · rw [if_neg hneg]
        by_cases hzero : outcome k = 0
        · rw [if_pos hzero, hzero]
          exact ⟨[], done_again packet, rfl, fun h => absurd h (by simp), by simp⟩
        · rw [if_neg hzero]
          have hpos : 0 < outcome k := by omega
          obtain ⟨history, hdone, hsplit, hall, hfails⟩ := ih (k + 1)
          refine ⟨(packet, .sent) :: history, (done_sent hpos).append hdone, ?_, hall, ?_⟩
          · rw [List.map_cons, List.cons_append, ← hsplit]
          · rw [hfails]
            exact ⟨fun h => Or.inr ⟨hpos, h⟩, fun h => (h.resolve_left hneg).2⟩

/-! ### Steps -/

/-- The packets that are done with are in front of those that are queued. -/
structure InOrder (r : SocketRecord) : Prop where
  history : ∃ history, Done r.calls history ∧
    r.submitted = history.map Prod.fst ++ r.socket.udpPacketList
  writeInterest : r.socket.udpPacketList ≠ [] → r.socket.socketWatcher.writeInterest

/-- Packets that all wait have no other fate. -/
theorem withFate_queued (fate : Fate) (packets : List UdpPacketData) :
    withFate fate (packets.map fun packet => (packet, .queued))
      = if fate = .queued then packets else [] := by
  induction packets with
  | nil => cases fate <;> rfl
  | cons packet packets ih =>
      rw [List.map_cons, ← List.singleton_append, withFate_append, ih]
      cases fate <;> rfl

/-- The count of the packets follows from their order. -/
theorem InOrder.accounted {r : SocketRecord} (h : InOrder r) : Accounted r := by
  obtain ⟨⟨history, hdone, hsubmitted⟩, hinterest⟩ := h
  refine ⟨⟨history ++ r.socket.udpPacketList.map fun packet => (packet, .queued), ?_, ?_, ?_, ?_⟩,
    hinterest⟩
  · rw [List.map_append, List.map_map, hsubmitted]
    congr 1
    exact List.map_id _
  · rw [withFate_append, withFate_queued, if_neg (by decide), List.append_nil]
    exact hdone.sent
  · rw [withFate_append, withFate_queued, if_neg (by decide), List.append_nil]
    exact hdone.failed
  · rw [withFate_append, withFate_queued, if_pos rfl, hdone.queued, List.nil_append]

section

variable {r : SocketRecord} {outcome : Nat → Int} {data : Bytes} {addr : Ice.SocketAddress}
  {calls : List SendCall} {packets : List UdpPacketData}

/-- The socket can be written again: it sends the backlog, and takes back its interest in writing
when all of it is sent. -/
theorem step_sendData {backlog : Backlog}
    (h : sendBacklog outcome 0 r.socket.udpPacketList = (calls, backlog, packets)) :
    r.step (.sendData outcome) =
      ⟨⟨packets, if backlog = .sent then r.socket.socketWatcher.stopIoEvent eventWrite
        else r.socket.socketWatcher⟩, r.submitted, r.calls ++ calls⟩ := by
  unfold SocketRecord.step AsyncUdpSocket.sendData
  dsimp only
  rw [h]
  cases backlog <;> rfl

/-- A new packet behind a backlog that fails: it is neither sent nor queued. This is the early
return of the source. -/
theorem step_sendTo_failed
    (h : sendBacklog outcome 0 r.socket.udpPacketList = (calls, .failed, packets)) :
    r.step (.sendTo data addr outcome) =
      ⟨⟨packets, r.socket.socketWatcher⟩, r.submitted ++ [⟨data, addr⟩], r.calls ++ calls⟩ := by
  unfold SocketRecord.step AsyncUdpSocket.sendTo AsyncUdpSocket.addUdpPacket
  dsimp only
  rw [h]

/-- A new packet behind a backlog that would block joins it. -/
theorem step_sendTo_again
    (h : sendBacklog outcome 0 r.socket.udpPacketList = (calls, .again, packets)) :
    r.step (.sendTo data addr outcome) =
      ⟨⟨packets ++ [⟨data, addr⟩], r.socket.socketWatcher.startIoEvent eventWrite⟩,
        r.submitted ++ [⟨data, addr⟩], r.calls ++ calls⟩ := by
  unfold SocketRecord.step AsyncUdpSocket.sendTo AsyncUdpSocket.addUdpPacket
  dsimp only
  rw [h]
  rfl

/-- The call for the new packet, behind an empty queue. -/
theorem step_sendTo_sent
    (h : sendBacklog outcome 0 r.socket.udpPacketList = (calls, .sent, packets)) :
    r.step (.sendTo data addr outcome) =
      ⟨if outcome calls.length = 0 then
          ⟨packets ++ [⟨data, addr⟩], r.socket.socketWatcher.startIoEvent eventWrite⟩
        else ⟨packets, r.socket.socketWatcher⟩,
        r.submitted ++ [⟨data, addr⟩],
        r.calls ++ (calls ++ [⟨⟨data, addr⟩, outcome calls.length⟩])⟩ := by
  unfold SocketRecord.step AsyncUdpSocket.sendTo AsyncUdpSocket.addUdpPacket
  dsimp only
  rw [h]
  dsimp only
  by_cases hneg : outcome calls.length < 0
  · rw [if_pos hneg, if_neg (by omega)]
  · rw [if_neg hneg]
    by_cases hzero : outcome calls.length = 0
    · rw [if_pos hzero, if_pos hzero]
      rfl
    · rw [if_neg hzero, if_neg hzero]

end

/-- Sending the backlog keeps the account. -/
theorem inOrder_sendData {r : SocketRecord} (h : InOrder r) (outcome : Nat → Int) :
    InOrder (r.step (.sendData outcome)) := by
  obtain ⟨⟨history, hdone, hsubmitted⟩, hinterest⟩ := h
  obtain ⟨taken, htaken, hsplit, hall, -⟩ := sendBacklog_spec outcome r.socket.udpPacketList 0
  generalize hresult : sendBacklog outcome 0 r.socket.udpPacketList = result at htaken hsplit hall
  obtain ⟨calls, backlog, packets⟩ := result
  rw [step_sendData hresult]
  refine ⟨⟨history ++ taken, hdone.append htaken, ?_⟩, fun hne => ?_⟩
  · rw [hsubmitted, hsplit, List.map_append, List.append_assoc]
  · -- packets are left, so the loop has not sent all of them
    show IOWatcher.writeInterest (if backlog = .sent then _ else _)
    rw [if_neg fun hsent => hne (hall hsent)]
    refine hinterest fun hnil => hne ?_
    rw [hnil] at hresult
    exact (congrArg (fun result => result.2.2) hresult).symm

/-- A new packet keeps the account, unless the backlog in front of it fails. -/
theorem inOrder_sendTo {r : SocketRecord} (h : InOrder r) (data : Bytes) (addr : Ice.SocketAddress)
    {outcome : Nat → Int} (hok : ¬ BacklogFails outcome 0 r.socket.udpPacketList) :
    InOrder (r.step (.sendTo data addr outcome)) := by
  obtain ⟨⟨history, hdone, hsubmitted⟩, -⟩ := h
  obtain ⟨taken, htaken, hsplit, hall, hfails⟩ :=
    sendBacklog_spec outcome r.socket.udpPacketList 0
  generalize hresult : sendBacklog outcome 0 r.socket.udpPacketList = result
    at htaken hsplit hall hfails
  obtain ⟨calls, backlog, packets⟩ := result
  have hbefore := hdone.append htaken
  have hrest : r.submitted ++ [⟨data, addr⟩]
      = (history ++ taken).map Prod.fst ++ (packets ++ [⟨data, addr⟩]) := by
    rw [hsubmitted, hsplit, List.map_append]
    simp only [List.append_assoc]
  cases backlog with
  | failed => exact absurd (hfails.mp rfl) hok
  | again =>
      -- the new packet goes to the end of the queue
      rw [step_sendTo_again hresult]
      exact ⟨⟨history ++ taken, hbefore, hrest⟩, fun _ => IOWatcher.writeInterest_startIoEvent _⟩
  | sent =>
      have hnil : packets = [] := hall rfl
      subst hnil
      rw [List.nil_append] at hrest
      rw [step_sendTo_sent hresult]
      by_cases hzero : outcome calls.length = 0
      · rw [if_pos hzero, hzero]
        refine ⟨⟨history ++ taken, ?_, hrest⟩, fun _ => IOWatcher.writeInterest_startIoEvent _⟩
        have hdone := hbefore.append (done_again ⟨data, addr⟩)
        rwa [List.append_nil, List.append_assoc] at hdone
      · -- the new packet is done with
        rw [if_neg hzero]
        obtain ⟨fate, hfate⟩ : ∃ fate, Done [⟨⟨data, addr⟩, outcome calls.length⟩]
            [(⟨data, addr⟩, fate)] := by
          rcases lt_or_gt_of_ne hzero with hneg | hpos
          · exact ⟨.failed, done_failed hneg⟩
          · exact ⟨.sent, done_sent hpos⟩
        refine ⟨⟨(history ++ taken) ++ [(⟨data, addr⟩, fate)], ?_, ?_⟩, fun hne => absurd rfl hne⟩
        · have hdone := hbefore.append hfate
          rwa [List.append_assoc] at hdone
        · show r.submitted ++ [⟨data, addr⟩] = _ ++ []
          rw [hrest, List.append_nil]
          conv_rhs => rw [List.map_append]
          rfl

/-- A packet that is submitted while one of the queue fails has no fate. -/
theorem not_accounted_of_losesPacket {r : SocketRecord} (h : InOrder r) (data : Bytes)
    (addr : Ice.SocketAddress) {outcome : Nat → Int}
    (hlost : BacklogFails outcome 0 r.socket.udpPacketList) :
    ¬ Accounted (r.step (.sendTo data addr outcome)) := by
  obtain ⟨⟨history, hdone, hsubmitted⟩, -⟩ := h
  obtain ⟨taken, htaken, hsplit, -, hfails⟩ := sendBacklog_spec outcome r.socket.udpPacketList 0
  generalize hresult : sendBacklog outcome 0 r.socket.udpPacketList = result
    at htaken hsplit hfails
  obtain ⟨calls, backlog, packets⟩ := result
  have hfailed : backlog = .failed := hfails.mpr hlost
  subst hfailed
  rw [step_sendTo_failed hresult]
  rintro ⟨⟨all, hall, hsent, hfailed, hqueued⟩, -⟩
  -- one packet more is submitted than is sent, failed and queued
  have hbefore := hdone.append htaken
  have hcount := length_withFate (history ++ taken)
  rw [hbefore.sent, hbefore.failed, hbefore.queued] at hcount
  have hcountAll := length_withFate all
  rw [hsent, hfailed, hqueued] at hcountAll
  change (sentOf (r.calls ++ calls)).length + (failedOf (r.calls ++ calls)).length
    + packets.length = all.length at hcountAll
  have hlength := congrArg List.length hall
  have hsubmittedLength := congrArg List.length hsubmitted
  have hsplitLength := congrArg List.length hsplit
  simp only [List.length_append, List.length_map, List.length_nil, List.length_singleton]
    at hcount hlength hsubmittedLength hsplitLength
  omega

/-! ### Runs -/

/-- In every run, every packet is sent, queued or dropped after a call for it, exactly if none is
submitted in a call in which a queued packet fails. That call returns before it looks at the new
packet. -/
theorem always_accounted_iff (events : List SocketEvent) :
    Always SocketRecord.step Accounted {} events ↔
      Steps SocketRecord.step (fun r event => ¬ LosesPacket r event) {} events := by
  refine always_iff_steps (fun r (h : InOrder r) => h.accounted) ?_ ?_ ?_
  · intro r event h hok
    cases event with
    | sendTo data addr outcome => exact inOrder_sendTo h data addr hok
    | sendData outcome => exact inOrder_sendData h outcome
  · intro r event h hno
    cases event with
    | sendTo data addr outcome =>
        exact not_accounted_of_losesPacket h data addr (not_not.mp hno)
    | sendData outcome => exact absurd not_false hno
  · exact ⟨⟨[], done_nil, rfl⟩, fun hne => absurd rfl hne⟩

def receiverAddress : Ice.SocketAddress := ⟨.v4 0x0a000001, 9000⟩

/-- A packet that would block, and then an error for it in the call for the next one. -/
def failedBacklog : List SocketEvent :=
  [.sendTo [1] receiverAddress fun _ => 0, .sendTo [2] receiverAddress fun _ => -1]

/-- The second packet is neither sent nor queued, and there was no call for it. -/
theorem failedBacklog_not_accounted :
    ¬ Always SocketRecord.step Accounted {} failedBacklog := by
  intro h
  have hfirst : InOrder (SocketRecord.step {} (.sendTo [1] receiverAddress fun _ => 0)) :=
    inOrder_sendTo ⟨⟨[], done_nil, rfl⟩, fun hne => absurd rfl hne⟩ _ _ not_false
  exact not_accounted_of_losesPacket hfirst [2] receiverAddress (Or.inl (by decide)) h.2.2

end Xrtc.Proofs.Base
