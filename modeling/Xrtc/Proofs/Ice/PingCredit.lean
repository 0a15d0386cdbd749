import Xrtc.Lib.Run
import Xrtc.Proofs.Ice.SelectedConnection
import Xrtc.Proofs.Ice.StunWalk
import Xrtc.Proofs.Ice.ConnectionCalls

/-!
# `Xrtc.Proofs.Ice.PingCredit`: every ping is credited at most once

Two structures know of the pings that were sent. The map of the request manager holds
the ones that have no answer yet, and a response takes its request out of the map. The
list `_pings_since_last_response` is cleared as a whole by any credited response. So a
late response to an older ping finds its request in the map and no entry in the list.

The invariant `Accounted` ties both to the record of the run: a request in the map was
sent and not credited, and the list is `unanswered`. `accounted_step` is the step and
`always_creditedOnce` the run. The packets of a run are arbitrary, so a response can be
lost, come twice, out of order, or be forged.
-/

set_option autoImplicit false

namespace Xrtc.Proofs.Ice

open Xrtc.Lib
open Xrtc.Ice

/-! ### The property -/

/-- Every transaction id that was credited was that of a ping sent before. -/
def CreditsSent : List Handled → Prop
  | [] => True
  | .credited id _ :: record => id ∈ (pinged record).map (·.id) ∧ CreditsSent record
  | _ :: record => CreditsSent record

/-- A connection and what it has handled: every ping was credited at most once, and only
after it was sent; the unanswered pings are those since the last credit, in order; and a
credit leaves none of them and a writable connection. -/
structure CreditedOnce (c : IceConnection) (record : List Handled) : Prop where
  once : (creditedIds record).Nodup
  sent : CreditsSent record
  samples : c.rttSamples ≤ c.numPingsSent
  pings : c.pingsSinceLastResponse = unanswered record
  times : (c.pingsSinceLastResponse.map (·.sentTime)).Pairwise (· ≤ ·)
  afterCredit : ∀ id now before, record = .credited id now :: before →
    c.pingsSinceLastResponse = [] ∧ c.writeState = .writable

/-! ### The invariant -/

/-- The connection agrees with the record. -/
structure Accounted (c : IceConnection) (record : List Handled) : Prop where
  outstanding : ∀ request ∈ c.requests,
    request.id ∈ (pinged record).map (·.id) ∧ request.id ∉ creditedIds record
  once : (creditedIds record).Nodup
  sent : CreditsSent record
  rttSamples : c.rttSamples = (creditedIds record).length
  numPingsSent : c.numPingsSent = (pinged record).length
  pings : c.pingsSinceLastResponse = unanswered record
  writable : ∀ id now before, record = .credited id now :: before → c.writeState = .writable

/-- What was credited had been sent. -/
theorem mem_pinged_of_mem_creditedIds {record : List Handled} (h : CreditsSent record) :
    ∀ id ∈ creditedIds record, id ∈ (pinged record).map (·.id) := by
  induction record with
  | nil => exact fun id hid => nomatch hid
  | cons e record ih =>
      intro id hid
      cases e with
      | credited id' now =>
          rcases List.mem_cons.mp hid with rfl | hid
          · exact h.1
          · exact ih h.2 id hid
      | pinged ping => exact List.mem_cons_of_mem _ (ih h id hid)
      | request now => exact ih h id hid
      | data now => exact ih h id hid

/-- The entries of `unanswered` are pings of the record. -/
theorem mem_record_of_mem_unanswered {record : List Handled} :
    ∀ ping ∈ unanswered record, .pinged ping ∈ record := by
  induction record with
  | nil => exact fun ping hping => nomatch hping
  | cons e record ih =>
      intro ping hping
      cases e with
      | pinged ping' =>
          rcases List.mem_append.mp hping with hping | hping
          · exact List.mem_cons_of_mem _ (ih ping hping)
          · rw [List.mem_singleton.mp hping]
            exact List.mem_cons_self
      | credited id now => cases hping
      | request now => exact List.mem_cons_of_mem _ (ih ping hping)
      | data now => exact List.mem_cons_of_mem _ (ih ping hping)

/-- The unanswered pings are in the order of their times. -/
theorem unanswered_pairwise {record : List Handled}
    (h : record.Pairwise fun later earlier => earlier.time ≤ later.time) :
    ((unanswered record).map (·.sentTime)).Pairwise (· ≤ ·) := by
  induction record with
  | nil => exact List.Pairwise.nil
  | cons e record ih =>
      obtain ⟨hhead, htail⟩ := List.pairwise_cons.mp h
      cases e with
      | pinged ping =>
          show ((unanswered record ++ [ping]).map (·.sentTime)).Pairwise (· ≤ ·)
          rw [List.map_append, List.pairwise_append]
          refine ⟨ih htail, List.pairwise_singleton _ _, ?_⟩
          intro t ht t' ht'
          obtain ⟨ping', hping', rfl⟩ := List.mem_map.mp ht
          rw [List.mem_singleton.mp ht']
          exact hhead _ (mem_record_of_mem_unanswered ping' hping')
      | credited id now => exact List.Pairwise.nil
      | request now => exact ih htail
      | data now => exact ih htail

/-- The invariant gives the property, for a record in the order of its times. -/
theorem Accounted.creditedOnce {c : IceConnection} {record : List Handled}
    (h : Accounted c record)
    (hordered : record.Pairwise fun later earlier => earlier.time ≤ later.time) :
    CreditedOnce c record where
  once := h.once
  sent := h.sent
  samples := by
    have hle := (List.subperm_of_subset h.once (mem_pinged_of_mem_creditedIds h.sent)).length_le
    rwa [List.length_map, ← h.rttSamples, ← h.numPingsSent] at hle
  pings := h.pings
  times := by
    rw [h.pings]
    exact unanswered_pairwise hordered
  afterCredit := by
    intro id now before hrecord
    refine ⟨?_, h.writable id now before hrecord⟩
    rw [h.pings, hrecord]
    rfl

/-! ### One call -/

/-- A call that pings with a new transaction id keeps the invariant. A response takes its request
out of the list, so the next one with the same id finds none and credits nothing. -/
theorem accounted_step (digest : MessageDigest) (p : Ptr) {s : ConnectionRun} {call : Call}
    (h : Accounted (s.world.heap p) s.record)
    (hfresh : ∀ id, call.pingId = some id → id ∉ (pinged s.record).map (·.id)) :
    Accounted ((callStep digest p s call).world.heap p) (callStep digest p s call).record := by
  obtain ⟨new, hrecord, -, -, hping, heffect⟩ := callStep_record digest p s call
  rw [hrecord]
  generalize (callStep digest p s call).world.heap p = c' at heffect
  cases heffect with
  | pinged now id hstate =>
      have hnew := hfresh id (hping _ List.mem_cons_self)
      have hrequests := congrArg PingState.requests hstate
      have hpings := congrArg PingState.pingsSinceLastResponse hstate
      have hsamples := congrArg PingState.rttSamples hstate
      have hsent := congrArg PingState.numPingsSent hstate
      refine ⟨?_, h.once, h.sent, hsamples.trans h.rttSamples, ?_, ?_, ?_⟩
      · intro request hmem
        rw [show c'.requests = _ from hrequests] at hmem
        rcases List.mem_cons.mp hmem with rfl | hmem
        · -- the new request was not sent before, so it was not credited either
          refine ⟨List.mem_cons_self, fun hcredited => hnew ?_⟩
          exact mem_pinged_of_mem_creditedIds h.sent id hcredited
        · obtain ⟨hold, hnot⟩ := h.outstanding request (List.mem_filter.mp hmem).1
          exact ⟨List.mem_cons_of_mem _ hold, hnot⟩
      · rw [show c'.numPingsSent = _ from hsent]
        exact congrArg (· + 1) h.numPingsSent
      · rw [show c'.pingsSinceLastResponse = _ from hpings]
        exact congrArg (· ++ [_]) h.pings
      · intro id' now' before heq
        cases heq
  | @credited now request hmem hstate hwritable =>
      -- an outstanding request was not credited before, and it is not outstanding any more
      obtain ⟨hold, hnot⟩ := h.outstanding request hmem
      have hrequests := congrArg PingState.requests hstate
      have hsamples := congrArg PingState.rttSamples hstate
      have hsent := congrArg PingState.numPingsSent hstate
      have hpings := congrArg PingState.pingsSinceLastResponse hstate
      refine ⟨?_, List.nodup_cons.mpr ⟨hnot, h.once⟩, ⟨hold, h.sent⟩, ?_,
        hsent.trans h.numPingsSent, hpings, fun _ _ _ _ => hwritable⟩
      · intro other hother
        rw [show c'.requests = _ from hrequests] at hother
        obtain ⟨hother, hne⟩ := List.mem_filter.mp hother
        obtain ⟨hsent', hnot'⟩ := h.outstanding other hother
        refine ⟨hsent', fun hcredited => ?_⟩
        rcases List.mem_cons.mp hcredited with heq | hcredited
        · simp [heq] at hne
        · exact hnot' hcredited
      · rw [show c'.rttSamples = _ from hsamples]
        exact congrArg (· + 1) h.rttSamples
  | dropped id hstate hwrite =>
      have hrequests := congrArg PingState.requests hstate
      refine ⟨?_, h.once, h.sent, (congrArg PingState.rttSamples hstate).trans h.rttSamples,
        (congrArg PingState.numPingsSent hstate).trans h.numPingsSent,
        (congrArg PingState.pingsSinceLastResponse hstate).trans h.pings, ?_⟩
      · intro request hmem
        -- fewer requests are outstanding, and nothing is written down
        rw [show c'.requests = _ from hrequests] at hmem
        exact h.outstanding request (List.mem_filter.mp hmem).1
      · intro id' now' before heq
        rw [hwrite]
        exact h.writable id' now' before heq
  | @traffic e hnotPing hnotCredit hstate hwrite =>
      have hrequests : c'.requests = _ := congrArg PingState.requests hstate
      have hsamples := (congrArg PingState.rttSamples hstate).trans h.rttSamples
      have hsent := (congrArg PingState.numPingsSent hstate).trans h.numPingsSent
      have hpings := (congrArg PingState.pingsSinceLastResponse hstate).trans h.pings
      have houtstanding : ∀ request ∈ c'.requests,
          request.id ∈ (pinged s.record).map (·.id) ∧ request.id ∉ creditedIds s.record := by
        rw [hrequests]
        exact h.outstanding
      cases e with
      | pinged ping => exact absurd rfl (hnotPing ping)
      | credited id now => exact absurd rfl (hnotCredit id now)
      | request now =>
          exact ⟨houtstanding, h.once, h.sent, hsamples, hsent, hpings, fun _ _ _ heq => nomatch heq⟩
      | data now =>
          exact ⟨houtstanding, h.once, h.sent, hsamples, hsent, hpings, fun _ _ _ heq => nomatch heq⟩
  | kept hstate hwrite =>
      have hrequests : c'.requests = _ := congrArg PingState.requests hstate
      have hpings := congrArg PingState.pingsSinceLastResponse hstate
      refine ⟨?_, h.once, h.sent, (congrArg PingState.rttSamples hstate).trans h.rttSamples,
        (congrArg PingState.numPingsSent hstate).trans h.numPingsSent, hpings.trans h.pings, ?_⟩
      · rw [hrequests]
        exact h.outstanding
      · -- after a credit there are no unanswered pings, so the write state stays
        intro id now before heq
        have heq' : s.record = .credited id now :: before := heq
        rw [hwrite (by rw [h.pings, heq']; rfl)]
        exact h.writable id now before heq'

/-! ### Runs -/

/-- The pings to come have transaction ids that differ from each other and from those
before. -/
structure FreshIds (record : List Handled) (calls : List Call) : Prop where
  calls_nodup : (calls.filterMap Call.pingId).Nodup
  not_pinged : ∀ id ∈ calls.filterMap Call.pingId, id ∉ (pinged record).map (·.id)

/-- What is pinged in a call is the ping of the call. -/
theorem pinged_append {new record : List Handled} :
    pinged (new ++ record) = pinged new ++ pinged record := by
  induction new with
  | nil => rfl
  | cons e new ih => cases e <;> simp [pinged, ih]

/-- A ping of the record is an entry of it. -/
theorem mem_pinged {record : List Handled} {ping : SentPing} (h : ping ∈ pinged record) :
    .pinged ping ∈ record := by
  induction record with
  | nil => cases h
  | cons e record ih =>
      cases e with
      | pinged ping' =>
          rcases List.mem_cons.mp h with rfl | h
          · exact List.mem_cons_self
          · exact List.mem_cons_of_mem _ (ih h)
      | credited id now => exact List.mem_cons_of_mem _ (ih h)
      | request now => exact List.mem_cons_of_mem _ (ih h)
      | data now => exact List.mem_cons_of_mem _ (ih h)

/-- Distinct ids stay distinct over a call. -/
theorem FreshIds.step {digest : MessageDigest} {p : Ptr} {s : ConnectionRun} {call : Call}
    {calls : List Call} (h : FreshIds s.record (call :: calls)) :
    FreshIds (callStep digest p s call).record calls := by
  obtain ⟨new, hrecord, -, -, hping, -⟩ := callStep_record digest p s call
  have hsub : ∀ id ∈ calls.filterMap Call.pingId, id ∈ (call :: calls).filterMap Call.pingId := by
    intro id hid
    obtain ⟨c, hc, hcid⟩ := List.mem_filterMap.mp hid
    exact List.mem_filterMap.mpr ⟨c, List.mem_cons_of_mem call hc, hcid⟩
  have hnodup := h.calls_nodup
  refine ⟨?_, ?_⟩
  · rw [List.filterMap_cons] at hnodup
    split at hnodup
    · exact hnodup
    · exact hnodup.of_cons
  · intro id hid hmem
    rw [hrecord, pinged_append, List.map_append] at hmem
    rcases List.mem_append.mp hmem with hmem | hmem
    · obtain ⟨ping, hnew, rfl⟩ := List.mem_map.mp hmem
      rw [List.filterMap_cons, hping ping (mem_pinged hnew)] at hnodup
      exact (List.nodup_cons.mp hnodup).1 hid
    · exact h.not_pinged id (hsub id hid) hmem

/-- For every run of a connection whose pings have distinct transaction ids and whose
clock does not go back, every ping is credited at most once, in every state of the
run. -/
theorem always_creditedOnce (digest : MessageDigest) (p : Ptr) (w : World) (port : Nat)
    (remoteCandidate : Candidate) (hnew : w.heap p = { port, remoteCandidate })
    (calls : List Call) (hids : (calls.filterMap Call.pingId).Nodup)
    (hclock : (calls.filterMap Call.time).Pairwise (· ≤ ·)) :
    Always (callStep digest p) (fun s => CreditedOnce (s.world.heap p) s.record) { world := w }
      calls := by
  have hrun : ∀ (calls : List Call) (s : ConnectionRun), Accounted (s.world.heap p) s.record →
      FreshIds s.record calls → InTime s.record calls →
      Always (callStep digest p) (fun s => CreditedOnce (s.world.heap p) s.record) s calls := by
    intro calls
    -- on the calls; their ids are fresh and their times behind those of the record
    induction calls with
    | nil => exact fun s h _ htime => h.creditedOnce htime.ordered
    | cons call calls ih =>
        intro s h hfresh htime
        refine ⟨h.creditedOnce htime.ordered, ih _ (accounted_step digest p h ?_) hfresh.step
          htime.step⟩
        intro id hid
        exact hfresh.not_pinged id (List.mem_filterMap.mpr ⟨call, List.mem_cons_self, hid⟩)
  refine hrun calls _ ?_ ⟨hids, fun _ _ hmem => nomatch hmem⟩
    ⟨List.Pairwise.nil, hclock, fun _ hmem => nomatch hmem⟩
  refine ⟨?_, List.nodup_nil, trivial, ?_, ?_, ?_, fun _ _ _ heq => nomatch heq⟩
  · intro request hmem
    rw [show ({ world := w : ConnectionRun }).world.heap p = _ from hnew] at hmem
    cases hmem
  all_goals
    show _ = _
    rw [show ({ world := w : ConnectionRun }).world.heap p = _ from hnew]
    rfl

/-- A transaction id of twelve equal characters. -/
def equalId (b : UInt8) : Bytes := List.replicate 12 b

/-- A binding response with a message integrity and a fingerprint of zeros. -/
def zeroResponse (id : Bytes) : Bytes :=
  [0x01, 0x01, 0x00, 0x20, 0x21, 0x12, 0xa4, 0x42] ++ id ++
    [0x00, 0x08, 0x00, 0x14] ++ List.replicate 20 0 ++
    [0x80, 0x28, 0x00, 0x04, 0x53, 0x54, 0x55, 0x4e]

/-- A channel with one new connection, at address 0. -/
def oneConnection : World :=
  { heap := fun _ => { port := 0, remoteCandidate := noCandidate }
    live := [0]
    ports := fun _ => { iceParams := {}, localCandidate := noCandidate } }

/-- Two pings. The response to the first one comes twice, then the response to the
second one comes, and one to no ping at all. -/
def lateResponses : List Call :=
  [.ping 1 (equalId 1), .ping 2 (equalId 2), .packet (zeroResponse (equalId 1)) 3,
    .packet (zeroResponse (equalId 1)) 4, .updateState 5, .packet (zeroResponse (equalId 2)) 6,
    .packet (zeroResponse (equalId 3)) 7]

/-- A run with responses that come late and twice. -/
theorem lateResponses_creditedOnce :
    Always (callStep (fixedDigest (Vector.replicate 20 0) 0) 0)
        (fun s => CreditedOnce (s.world.heap 0) s.record) { world := oneConnection } lateResponses ∧
      creditedIds (run (callStep (fixedDigest (Vector.replicate 20 0) 0) 0)
        { world := oneConnection } lateResponses).record = [equalId 2, equalId 1] :=
  ⟨always_creditedOnce _ 0 oneConnection 0 noCandidate rfl lateResponses (by decide) (by decide),
    by decide +kernel⟩

end Xrtc.Proofs.Ice
