import Xrtc.Proofs.Ice.PingCredit

/-!
# `Xrtc.Proofs.Ice.Receiving`: the receiving flag of a connection

`update_receiving` compares the clock with `last_received`, the latest of three times:
that of the last ping received, of the last ping response and of the last data. Only
`received_ping_response` sets one of them. The handler of binding requests and the one of
data leave `_last_ping_received` and `_last_data_received` at zero (`Clocked`).

So the flag knows of credited responses and pings only. `reflects_iff` compares that with
what was handled: the flag is right about all traffic exactly when, whenever something
came in during the last 2500 ms, a credited response did, or a credited response is newer
than the last ping (`Vouched`).
-/

set_option autoImplicit false

namespace Xrtc.Proofs.Ice

open Xrtc.Lib
open Xrtc.Ice

/-! ### The property -/

/-- The value of `_receiving` after `update_receiving(now)` goes with what was handled. It
is set if a binding request, a credited response or data came less than 2500 ms before.
It is not set if the last of these is 2500 ms old and nothing was credited since the last
ping. -/
structure Reflects (record : List Handled) (receiving : Bool) (now : Int) : Prop where
  seen : (∃ h ∈ record, h.isTraffic = true ∧ now < h.time + 2500) → receiving = true
  quiet : (∀ h ∈ record, h.isTraffic = true → h.time + 2500 ≤ now) →
    creditedSincePing record = false → receiving = false

/-- Whenever something came in less than 2500 ms before, a response was credited less than
2500 ms before, or the last credited response is later than the last ping. -/
def Vouched (record : List Handled) (now : Int) : Prop :=
  (∃ h ∈ record, h.isTraffic = true ∧ now < h.time + 2500) →
    (∃ id t, .credited id t ∈ record ∧ now < t + 2500) ∨ lastPinged record < lastCredited record

/-! ### The times in the record -/

/-- The time of the last credit is the time of a response. -/
theorem lastCredited_mem {record : List Handled} (h : lastCredited record ≠ 0) :
    ∃ id, .credited id (lastCredited record) ∈ record := by
  induction record with
  | nil => exact absurd rfl h
  | cons e record ih =>
      cases e with
      | credited id now => exact ⟨id, List.mem_cons_self⟩
      | pinged ping =>
          obtain ⟨id, hid⟩ := ih h
          exact ⟨id, List.mem_cons_of_mem _ hid⟩
      | request now =>
          obtain ⟨id, hid⟩ := ih h
          exact ⟨id, List.mem_cons_of_mem _ hid⟩
      | data now =>
          obtain ⟨id, hid⟩ := ih h
          exact ⟨id, List.mem_cons_of_mem _ hid⟩

/-- No credit is later than the last one. -/
theorem le_lastCredited {record : List Handled} {id : Bytes} {t : Int}
    (hordered : record.Pairwise fun later earlier => earlier.time ≤ later.time)
    (h : .credited id t ∈ record) : t ≤ lastCredited record := by
  induction record with
  | nil => cases h
  | cons e record ih =>
      obtain ⟨hhead, htail⟩ := List.pairwise_cons.mp hordered
      rcases List.mem_cons.mp h with rfl | hmem
      · exact Int.le_refl t
      · cases e with
        | credited id' now => exact hhead _ hmem
        | pinged ping => exact ih htail hmem
        | request now => exact ih htail hmem
        | data now => exact ih htail hmem

/-- If nothing was credited since the last ping, the last credit is not later. -/
theorem lastCredited_le_lastPinged {record : List Handled}
    (hordered : record.Pairwise fun later earlier => earlier.time ≤ later.time)
    (hpos : ∀ h ∈ record, 0 < h.time) (h : creditedSincePing record = false) :
    lastCredited record ≤ lastPinged record := by
  induction record with
  | nil => exact Int.le_refl 0
  | cons e record ih =>
      obtain ⟨hhead, htail⟩ := List.pairwise_cons.mp hordered
      have hrest := ih htail fun e he => hpos e (List.mem_cons_of_mem _ he)
      cases e with
      | credited id now => cases h
      | pinged ping =>
          show lastCredited record ≤ ping.sentTime
          by_cases hzero : lastCredited record = 0
          · rw [hzero]
            exact Int.le_of_lt (hpos _ List.mem_cons_self)
          · obtain ⟨id, hid⟩ := lastCredited_mem hzero
            exact hhead _ hid
      | request now => exact hrest h
      | data now => exact hrest h

/-! ### The time stamps of the connection -/

/-- The time stamps of the connection, in terms of the record. Two of the three that
`last_received` reads are never set. -/
structure Clocked (c : IceConnection) (record : List Handled) : Prop where
  lastPingSent : c.lastPingSent = lastPinged record
  lastPingResponseReceived : c.lastPingResponseReceived = lastCredited record
  lastPingReceived : c.lastPingReceived = 0
  lastDataReceived : c.lastDataReceived = 0

/-- A call leaves the times of the connection in step with the record. -/
theorem clocked_step (digest : MessageDigest) (p : Ptr) {s : ConnectionRun} (call : Call)
    (h : Clocked (s.world.heap p) s.record) :
    Clocked ((callStep digest p s call).world.heap p) (callStep digest p s call).record := by
  obtain ⟨new, hrecord, -, -, -, heffect⟩ := callStep_record digest p s call
  rw [hrecord]
  generalize (callStep digest p s call).world.heap p = c' at heffect
  -- a call that does not touch the time stamps
  have hkept : pingState c' = pingState (s.world.heap p) → Clocked c' s.record := by
    intro hstate
    exact ⟨(congrArg PingState.lastPingSent hstate).trans h.lastPingSent,
      (congrArg PingState.lastPingResponseReceived hstate).trans h.lastPingResponseReceived,
      (congrArg PingState.lastPingReceived hstate).trans h.lastPingReceived,
      (congrArg PingState.lastDataReceived hstate).trans h.lastDataReceived⟩
  cases heffect with
  | pinged now id hstate =>
      exact ⟨congrArg PingState.lastPingSent hstate,
        (congrArg PingState.lastPingResponseReceived hstate).trans h.lastPingResponseReceived,
        (congrArg PingState.lastPingReceived hstate).trans h.lastPingReceived,
        (congrArg PingState.lastDataReceived hstate).trans h.lastDataReceived⟩
  | credited now hmem hstate hwritable =>
      exact ⟨(congrArg PingState.lastPingSent hstate).trans h.lastPingSent,
        congrArg PingState.lastPingResponseReceived hstate,
        (congrArg PingState.lastPingReceived hstate).trans h.lastPingReceived,
        (congrArg PingState.lastDataReceived hstate).trans h.lastDataReceived⟩
  | dropped id hstate hwrite =>
      exact ⟨(congrArg PingState.lastPingSent hstate).trans h.lastPingSent,
        (congrArg PingState.lastPingResponseReceived hstate).trans h.lastPingResponseReceived,
        (congrArg PingState.lastPingReceived hstate).trans h.lastPingReceived,
        (congrArg PingState.lastDataReceived hstate).trans h.lastDataReceived⟩
  | @traffic e hnotPing hnotCredit hstate hwrite =>
      have hclocked := hkept hstate
      cases e with
      | pinged ping => exact absurd rfl (hnotPing ping)
      | credited id now => exact absurd rfl (hnotCredit id now)
      | request now => exact ⟨hclocked.1, hclocked.2, hclocked.3, hclocked.4⟩
      | data now => exact ⟨hclocked.1, hclocked.2, hclocked.3, hclocked.4⟩
  | kept hstate hwrite => exact hkept hstate

/-- The value that `update_receiving` computes. -/
theorem computeReceiving_iff {c : IceConnection} {record : List Handled} (h : Clocked c record)
    (hpos : ∀ e ∈ record, 0 < e.time) (now : Int) :
    c.computeReceiving now = true ↔
      lastPinged record < lastCredited record ∨
        (0 < lastCredited record ∧ now < lastCredited record + 2500) := by
  have hnonneg : 0 ≤ lastCredited record := by
    by_cases hzero : lastCredited record = 0
    · rw [hzero]
    · obtain ⟨id, hid⟩ := lastCredited_mem hzero
      exact Int.le_of_lt (hpos _ hid)
  have hreceived : c.lastReceived = lastCredited record := by
    rw [IceConnection.lastReceived, h.lastPingReceived, h.lastDataReceived,
      h.lastPingResponseReceived]
    omega
  have htimeout : IceConnection.receivingTimeout = 2500 := rfl
  rw [IceConnection.computeReceiving, h.lastPingSent, h.lastPingResponseReceived, hreceived,
    htimeout]
  split <;> simp_all

/-! ### When the flag is right -/

/-- In a state that agrees with the record, the flag goes with what was handled exactly
when every recent traffic is vouched for by a credited response. -/
theorem reflects_iff {w : World} {p : Ptr} {record : List Handled}
    (h : Clocked (w.heap p) record)
    (hordered : record.Pairwise fun later earlier => earlier.time ≤ later.time)
    (hpos : ∀ e ∈ record, 0 < e.time) (now : Int) :
    Reflects record ((IceConnection.updateReceiving w p now).heap p).receiving now ↔
      Vouched record now := by
  rw [receiving_updateReceiving]
  have hcompute := computeReceiving_iff h hpos now
  constructor
  · rintro ⟨hseen, -⟩ htraffic
    rcases hcompute.mp (hseen htraffic) with hnewer | ⟨hzero, hrecent⟩
    · exact Or.inr hnewer
    · -- a recent credit: zero would be as old as the clock
      have hne : lastCredited record ≠ 0 := by omega
      obtain ⟨id, hid⟩ := lastCredited_mem hne
      exact Or.inl ⟨id, _, hid, hrecent⟩
  · intro hvouched
    constructor
    · intro htraffic
      refine hcompute.mpr ?_
      rcases hvouched htraffic with ⟨id, t, hmem, hrecent⟩ | hnewer
      · have hle := le_lastCredited hordered hmem
        have hzero : 0 < t := hpos _ hmem
        exact Or.inr ⟨by omega, by omega⟩
      · exact Or.inl hnewer
    · intro hold hnone
      rw [Bool.eq_false_iff]
      intro htrue
      have hle := lastCredited_le_lastPinged hordered hpos hnone
      rcases hcompute.mp htrue with hnewer | ⟨hzero, hrecent⟩
      · omega
      · have hne : lastCredited record ≠ 0 := by omega
        obtain ⟨id, hid⟩ := lastCredited_mem hne
        have hage : lastCredited record + 2500 ≤ now := hold _ hid rfl
        omega

/-- For every run of a connection at positive times that do not go back, and every
`update_receiving(now)` after it, the flag goes with what was handled if and only if every
recent traffic is vouched for. -/
theorem run_reflects_iff (digest : MessageDigest) (p : Ptr) (w : World) (port : Nat)
    (remoteCandidate : Candidate) (hnew : w.heap p = { port, remoteCandidate })
    (calls : List Call) (hclock : (calls.filterMap Call.time).Pairwise (· ≤ ·))
    (hpos : ∀ t ∈ calls.filterMap Call.time, 0 < t) (now : Int) :
    Reflects (run (callStep digest p) { world := w } calls).record
        ((IceConnection.updateReceiving
          (run (callStep digest p) { world := w } calls).world p now).heap p).receiving now ↔
      Vouched (run (callStep digest p) { world := w } calls).record now := by
  have hrun : ∀ (calls : List Call) (s : ConnectionRun), Clocked (s.world.heap p) s.record →
      InTime s.record calls → (∀ e ∈ s.record, 0 < e.time) →
      (∀ t ∈ calls.filterMap Call.time, 0 < t) →
      (Reflects (run (callStep digest p) s calls).record
          ((IceConnection.updateReceiving (run (callStep digest p) s calls).world p now).heap
            p).receiving now ↔
        Vouched (run (callStep digest p) s calls).record now) := by
    intro calls
    -- on the calls, from any state whose clock fields agree with the record
    induction calls with
    | nil => exact fun s h htime hpos _ => reflects_iff h htime.ordered hpos now
    | cons call calls ih =>
        intro s h htime hpos hcalls
        refine ih _ (clocked_step digest p call h) htime.step ?_ ?_
        · obtain ⟨new, hrecord, -, htimes, -, -⟩ := callStep_record digest p s call
          intro e he
          rw [hrecord] at he
          rcases List.mem_append.mp he with he | he
          · exact hcalls _ (List.mem_filterMap.mpr ⟨call, List.mem_cons_self, htimes e he⟩)
          · exact hpos e he
        · intro t ht
          obtain ⟨c, hc, hct⟩ := List.mem_filterMap.mp ht
          exact hcalls t (List.mem_filterMap.mpr ⟨c, List.mem_cons_of_mem call hc, hct⟩)
  refine hrun calls _ ?_ ⟨List.Pairwise.nil, hclock, fun _ hmem => nomatch hmem⟩
    (fun _ hmem => nomatch hmem) hpos
  show Clocked (w.heap p) []
  rw [hnew]
  exact ⟨rfl, rfl, rfl, rfl⟩

/-- After the responses of `lateResponses` the flag is right. -/
theorem lateResponses_reflects :
    Reflects (run (callStep (fixedDigest (Vector.replicate 20 0) 0) 0)
        { world := oneConnection } lateResponses).record
      ((IceConnection.updateReceiving (run (callStep (fixedDigest (Vector.replicate 20 0) 0) 0)
        { world := oneConnection } lateResponses).world 0 8).heap 0).receiving 8 := by
  refine (run_reflects_iff _ 0 oneConnection 0 noCandidate rfl lateResponses (by decide)
    (by decide) 8).mpr fun _ => Or.inl ⟨equalId 2, 6, ?_, by decide⟩
  decide +kernel

/-- A connection that has received data one millisecond ago is not receiving. -/
theorem data_not_reflects :
    ¬ Reflects (run (callStep (fixedDigest (Vector.replicate 20 0) 0) 0)
        { world := oneConnection } [.packet [0x80, 0x60] 10000]).record
      ((IceConnection.updateReceiving (run (callStep (fixedDigest (Vector.replicate 20 0) 0) 0)
        { world := oneConnection } [.packet [0x80, 0x60] 10000]).world 0 10001).heap 0).receiving
      10001 := by
  have hrecord : (run (callStep (fixedDigest (Vector.replicate 20 0) 0) 0)
      { world := oneConnection } [.packet [0x80, 0x60] 10000]).record = [.data 10000] := by
    decide +kernel
  have hflag : ((IceConnection.updateReceiving (run (callStep
      (fixedDigest (Vector.replicate 20 0) 0) 0) { world := oneConnection }
      [.packet [0x80, 0x60] 10000]).world 0 10001).heap 0).receiving = false := by
    decide +kernel
  rw [hrecord, hflag]
  intro h
  exact absurd (h.seen ⟨_, List.mem_cons_self, rfl, by decide⟩) (by decide)

end Xrtc.Proofs.Ice
