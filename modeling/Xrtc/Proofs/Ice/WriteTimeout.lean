import Xrtc.Proofs.Ice.ConnectionCalls

/-!
# `Xrtc.Proofs.Ice.WriteTimeout`: when a connection is given up

`update_state` compares the clock with three sums of a sending time and a waiting time.
`isUnreliable` and `isTimedOut` are the two conditions in unbounded integers, and
`FollowsRule` says that the write state goes through the two steps that they call for.

The sum of the fifth sending time is kept in an `int`, and so is twice the rtt. From a
clock of `2 ^ 31` ms on, the sum comes out lower than it is, and a connection whose fifth
ping is not overdue is taken for unreliable. `followsRule_iff` has the exact condition
(`ExactTimes`).
-/

set_option autoImplicit false

namespace Xrtc.Proofs.Ice

open Xrtc.Lib
open Xrtc.Ice

/-! ### The rule -/

/-- Twice the rtt, at least 100 ms and at most 60 s. -/
def responseTime (rtt : Int) : Int := max 100 (min (2 * rtt) 60000)

/-- At least five pings are unanswered, the response to the fifth is overdue, and the first
was sent more than five seconds ago. -/
def isUnreliable (c : IceConnection) (now : Int) : Bool :=
  match c.pingsSinceLastResponse with
  | first :: _ :: _ :: _ :: fifth :: _ =>
      decide (fifth.sentTime + responseTime c.rtt < now) && decide (first.sentTime + 5000 < now)
  | _ => false

/-- The first unanswered ping was sent more than fifteen seconds ago. -/
def isTimedOut (c : IceConnection) (now : Int) : Bool :=
  match c.pingsSinceLastResponse with
  | first :: _ => decide (first.sentTime + 15000 < now)
  | [] => false

/-- The write states after the two steps. A writable connection becomes unreliable, and then
an unreliable or a new one is timed out. -/
def writeSteps (state : WriteState) (unreliable timedOut : Bool) : WriteState × WriteState :=
  let next := if state = .writable ∧ unreliable then .writeUnreliable else state
  (next, if (next = .writeUnreliable ∨ next = .writeInit) ∧ timedOut then .writeTimeout else next)

/-- `update_state` takes the two steps of the rule. -/
structure FollowsRule (w : World) (p : Ptr) (now : Int) : Prop where
  unreliable : ((IceConnection.updateUnreliable w p now).heap p).writeState
    = (writeSteps (w.heap p).writeState (isUnreliable (w.heap p) now)
        (isTimedOut (w.heap p) now)).1
  timedOut : ((IceConnection.updateState w p now).heap p).writeState
    = (writeSteps (w.heap p).writeState (isUnreliable (w.heap p) now)
        (isTimedOut (w.heap p) now)).2

/-! ### The condition -/

/-- A comparison with the clock tells the two times apart. -/
def Between (x y now : Int) : Prop := (x < now ∧ now ≤ y) ∨ (y < now ∧ now ≤ x)

instance (x y now : Int) : Decidable (Between x y now) := inferInstanceAs (Decidable (_ ∨ _))

/-- The time of the fifth response when the sum, and twice the rtt before it, are cut to 32
bits. From `2 ^ 30` on, twice the rtt is negative then. -/
def narrowedResponse (c : IceConnection) (fifth : SentPing) : Int :=
  toInt32 (fifth.sentTime + if c.rtt < 2 ^ 30 then responseTime c.rtt else 100)

/-- The clock is not between a time of the rule and the one the machine integers hold. The
sums with the first sending time only differ where they pass `2 ^ 63`. -/
structure ExactTimes (c : IceConnection) (now : Int) : Prop where
  response : c.writeState = .writable →
    ∀ first, c.pingsSinceLastResponse.head? = some first →
    ∀ fifth, c.pingsSinceLastResponse[4]? = some fifth →
    (first.sentTime + 5000 < now →
      ¬ Between (narrowedResponse c fifth) (fifth.sentTime + responseTime c.rtt) now) ∧
    (2 ^ 63 ≤ first.sentTime + 5000 → narrowedResponse c fifth < now →
      now ≤ first.sentTime + 5000 - 2 ^ 64)
  timeout : c.writeState = .writeUnreliable ∨ c.writeState = .writeInit →
    ∀ first, c.pingsSinceLastResponse.head? = some first →
    2 ^ 63 ≤ first.sentTime + 15000 → now ≤ first.sentTime + 15000 - 2 ^ 64

/-! ### What `update_state` does -/

/-- The first test of `update_state`. -/
def failsTest (c : IceConnection) (now : Int) : Bool :=
  c.tooManyPingFails connectionWriteConnectFails c.responseBound now &&
    c.tooLongWithoutResponse connectionWriteConnectTimeout now

section

variable (w : World) (p : Ptr) (now : Int)

/-- The first test only takes a writable connection to unreliable. -/
theorem writeState_updateUnreliable :
    ((IceConnection.updateUnreliable w p now).heap p).writeState
      = if (w.heap p).writeState = .writable ∧ failsTest (w.heap p) now then .writeUnreliable
        else (w.heap p).writeState := by
  unfold IceConnection.updateUnreliable failsTest
  simp only [Bool.and_eq_true]
  split
  · exact writeState_setWriteState w p now .writeUnreliable
  · rfl

/-- The second one only takes it from there, or from the start, to the timeout. -/
theorem writeState_updateTimeout :
    ((IceConnection.updateTimeout w p now).heap p).writeState
      = if ((w.heap p).writeState = .writeUnreliable ∨ (w.heap p).writeState = .writeInit) ∧
            (w.heap p).tooLongWithoutResponse connectionWriteTimeout now then .writeTimeout
        else (w.heap p).writeState := by
  unfold IceConnection.updateTimeout
  simp only
  split
  · exact writeState_setWriteState w p now .writeTimeout
  · rfl

/-- How long a connection waits depends on its pings only. -/
theorem tooLongWithoutResponse_congr {c c' : IceConnection} (h : pingState c = pingState c')
    (minTime : Int) : c.tooLongWithoutResponse minTime now = c'.tooLongWithoutResponse minTime now := by
  have hpings : c.pingsSinceLastResponse = c'.pingsSinceLastResponse :=
    congrArg PingState.pingsSinceLastResponse h
  rw [IceConnection.tooLongWithoutResponse, IceConnection.tooLongWithoutResponse, hpings]

/-- `update_state` takes the two steps by its own tests. The second one looks at the same
pings as the first. -/
theorem writeSteps_updateState :
    (((IceConnection.updateUnreliable w p now).heap p).writeState,
      ((IceConnection.updateState w p now).heap p).writeState)
      = writeSteps (w.heap p).writeState (failsTest (w.heap p) now)
          ((w.heap p).tooLongWithoutResponse connectionWriteTimeout now) := by
  have hsecond : ((IceConnection.updateState w p now).heap p).writeState
      = ((IceConnection.updateTimeout (IceConnection.updateUnreliable w p now) p now).heap
          p).writeState :=
    writeState_updateReceiving _ p now
  rw [hsecond, writeState_updateTimeout, writeState_updateUnreliable,
    tooLongWithoutResponse_congr now (pingState_updateUnreliable w p now)]
  rfl

/-- The steps depend on the first test of a writable connection, and on the second test of
one that is unreliable or new by then. -/
theorem writeSteps_eq_iff {state : WriteState} {fails fails' out out' : Bool} :
    writeSteps state fails out = writeSteps state fails' out' ↔
      (state = .writable → fails = fails' ∧ (fails' = true → out = out')) ∧
        (state = .writeUnreliable ∨ state = .writeInit → out = out') := by
  cases state <;> cases fails <;> cases fails' <;> cases out <;> cases out' <;> decide

end

/-! ### Machine integers and the rule -/

/-- An unreliable connection has waited more than 5 s for its first ping. -/
theorem first_of_isUnreliable {c : IceConnection} {now : Int} (h : isUnreliable c now = true)
    {first : SentPing} (hfirst : c.pingsSinceLastResponse.head? = some first) :
    first.sentTime + 5000 < now := by
  unfold isUnreliable at h
  split at h
  · rename_i hpings
    rw [hpings, List.head?_cons, Option.some.injEq] at hfirst
    rw [Bool.and_eq_true, decide_eq_true_eq, decide_eq_true_eq] at h
    exact hfirst ▸ h.2
  · cases h

/-- The bound of the code, for an rtt that an `int` can hold. -/
theorem responseBound_eq {c : IceConnection} (hrtt : 0 ≤ c.rtt) (hint : c.rtt < 2 ^ 31) :
    c.responseBound = if c.rtt < 2 ^ 30 then responseTime c.rtt else 100 := by
  have hmin : minRtt = 100 := rfl
  have hmax : maxRtt = 60000 := rfl
  unfold IceConnection.responseBound responseTime
  dsimp only
  by_cases hsmall : c.rtt < 2 ^ 30
  · rw [toInt32_of_lt (by omega) (by omega), if_pos hsmall]
    split_ifs <;> omega
  · -- twice the rtt is `2 ^ 31` or more and wraps around once
    have hneg : toInt32 (2 * c.rtt) < 0 := by
      have h := toInt32_neg (n := (2 * c.rtt).toNat) (by omega) (by omega)
      rwa [Int.toNat_of_nonneg (by omega)] at h
    rw [if_neg hsmall, if_pos (by omega), hmin]

/-- It waits too long exactly when its first ping is that old, in 64-bit arithmetic. -/
theorem tooLongWithoutResponse_iff {c : IceConnection} {minTime now : Int} :
    c.tooLongWithoutResponse minTime now = true ↔
      ∃ first, c.pingsSinceLastResponse.head? = some first ∧
        toInt64 (first.sentTime + minTime) < now := by
  unfold IceConnection.tooLongWithoutResponse
  cases c.pingsSinceLastResponse with
  | nil => simp
  | cons first rest => simp

/-- A sum with a sending time is the exact one, or it has passed `2 ^ 63` and is lower by
`2 ^ 64`. -/
theorem toInt64_sum {time wait : Int} (hlow : -2 ^ 63 ≤ time) (hhigh : time < 2 ^ 63)
    (hwait : 0 ≤ wait) (hshort : wait < 2 ^ 63) :
    (time + wait < 2 ^ 63 ∧ toInt64 (time + wait) = time + wait) ∨
      (2 ^ 63 ≤ time + wait ∧ toInt64 (time + wait) = time + wait - 2 ^ 64) := by
  by_cases hfits : time + wait < 2 ^ 63
  · exact Or.inl ⟨hfits, toInt64_of_lt (by omega) hfits⟩
  · exact Or.inr ⟨by omega, toInt64_of_le (by omega) (by omega)⟩

section

variable {c : IceConnection} {now : Int}
  (hsent : ∀ ping ∈ c.pingsSinceLastResponse, -2 ^ 63 ≤ ping.sentTime ∧ ping.sentTime < 2 ^ 63)
  (hnow : now ≤ 2 ^ 62)
include hsent hnow

/-- The second test of `update_state` is the rule, unless the sum passes `2 ^ 63`. -/
theorem timesOut_iff :
    c.tooLongWithoutResponse connectionWriteTimeout now = isTimedOut c now ↔
      ∀ first, c.pingsSinceLastResponse.head? = some first →
        2 ^ 63 ≤ first.sentTime + 15000 → now ≤ first.sentTime + 15000 - 2 ^ 64 := by
  rw [Bool.eq_iff_iff, tooLongWithoutResponse_iff, isTimedOut, connectionWriteTimeout]
  cases hpings : c.pingsSinceLastResponse with
  | nil => simp
  | cons first rest =>
      obtain ⟨hlow, hhigh⟩ := hsent first (by rw [hpings]; exact List.mem_cons_self)
      simp only [List.head?_cons, Option.some.injEq, exists_eq_left', forall_eq',
        decide_eq_true_eq]
      have hsum := toInt64_sum hlow hhigh (show (0 : Int) ≤ 15000 by omega) (by omega)
      omega

/-- The first test of `update_state` is the rule, unless the clock is between the two
response times or the sum with the first sending time passes `2 ^ 63`. -/
theorem failsTest_iff (hrtt : 0 ≤ c.rtt) (hint : c.rtt < 2 ^ 31) :
    failsTest c now = isUnreliable c now ↔
      ∀ first, c.pingsSinceLastResponse.head? = some first →
        ∀ fifth, c.pingsSinceLastResponse[4]? = some fifth →
        (first.sentTime + 5000 < now →
          ¬ Between (narrowedResponse c fifth) (fifth.sentTime + responseTime c.rtt) now) ∧
        (2 ^ 63 ≤ first.sentTime + 5000 → narrowedResponse c fifth < now →
          now ≤ first.sentTime + 5000 - 2 ^ 64) := by
  have hbound := responseBound_eq hrtt hint
  rw [Bool.eq_iff_iff, failsTest, Bool.and_eq_true, tooLongWithoutResponse_iff, isUnreliable,
    IceConnection.tooManyPingFails, connectionWriteConnectFails, connectionWriteConnectTimeout]
  match hpings : c.pingsSinceLastResponse with
  | [] | [_] | [_, _] | [_, _, _] | [_, _, _, _] => simp
  | first :: a :: b :: d :: fifth :: rest =>
      obtain ⟨hlow, hhigh⟩ := hsent first (by rw [hpings]; exact List.mem_cons_self)
      rw [if_neg (by simp)]
      have hnarrowed : toInt32 (fifth.sentTime + c.responseBound) = narrowedResponse c fifth := by
        rw [narrowedResponse, hbound]
      simp only [List.head?_cons, Option.some.injEq, exists_eq_left', forall_eq', hnarrowed,
        List.getElem?_cons_succ, List.getElem?_cons_zero, Bool.and_eq_true, decide_eq_true_eq,
        Nat.add_one_sub_one, Between]
      have hsum := toInt64_sum hlow hhigh (show (0 : Int) ≤ 5000 by omega) (by omega)
      generalize hn : narrowedResponse c fifth = n
      generalize he : fifth.sentTime + responseTime c.rtt = e
      omega

end

/-! ### The exact condition -/

/-- For every connection with an rtt that is not negative, every list of sending times and
every clock up to `2 ^ 62`, the write state follows the rule if and only if the clock is not
between a time of the rule and the one that the machine integers hold. -/
theorem followsRule_iff (w : World) (p : Ptr) (now : Int) (hrtt : 0 ≤ (w.heap p).rtt)
    (hint : (w.heap p).rtt < 2 ^ 31)
    (hsent : ∀ ping ∈ (w.heap p).pingsSinceLastResponse,
      -2 ^ 63 ≤ ping.sentTime ∧ ping.sentTime < 2 ^ 63)
    (hnow : now ≤ 2 ^ 62) : FollowsRule w p now ↔ ExactTimes (w.heap p) now := by
  have hfails := failsTest_iff hsent hnow hrtt hint
  have htimes := timesOut_iff hsent hnow
  have hfollows : FollowsRule w p now ↔
      writeSteps (w.heap p).writeState (failsTest (w.heap p) now)
          ((w.heap p).tooLongWithoutResponse connectionWriteTimeout now)
        = writeSteps (w.heap p).writeState (isUnreliable (w.heap p) now)
            (isTimedOut (w.heap p) now) := by
    rw [← writeSteps_updateState, Prod.ext_iff]
    exact ⟨fun h => ⟨h.unreliable, h.timedOut⟩, fun h => ⟨h.1, h.2⟩⟩
  rw [hfollows, writeSteps_eq_iff]
  constructor
  · rintro ⟨hwritable, hother⟩
    exact ⟨fun hstate => hfails.mp (hwritable hstate).1,
      fun hstate => htimes.mp (hother hstate)⟩
  · rintro ⟨hresponse, htimeout⟩
    refine ⟨fun hstate => ⟨hfails.mpr (hresponse hstate), fun hdue => ?_⟩,
      fun hstate => htimes.mpr (htimeout hstate)⟩
    -- what is unreliable was sent five seconds ago, so the later sum does not pass `2 ^ 63`
    refine htimes.mpr fun first hfirst hpast => ?_
    have hage := first_of_isUnreliable hdue hfirst
    omega

/-! ### Twenty-five days -/

/-- A writable connection with an rtt of 100 ms and five unanswered pings. The first was sent
when the clock was at `2 ^ 31` ms, the last so many ms later. -/
def afterTwentyFiveDays (last : Int) : World :=
  World.init
    (fun _ =>
      { port := 0
        remoteCandidate :=
          { address := ⟨.v4 0, 0⟩, priority := 0, username := [], password := [] }
        writeState := .writable
        rtt := 100
        pingsSinceLastResponse :=
          [0, 1000, 2000, 3000, last].map fun offset => ⟨[], 2 ^ 31 + offset⟩ })
    (fun _ => {})
    (fun _ => { address := ⟨.v4 0, 0⟩, priority := 0, username := [], password := [] })

/-- Where the response is overdue, the rule is followed on such a clock too. -/
theorem afterTwentyFiveDays_followsRule :
    FollowsRule (afterTwentyFiveDays 4000) 0 (2 ^ 31 + 6000) := by
  refine (followsRule_iff (afterTwentyFiveDays 4000) 0 (2 ^ 31 + 6000) (by decide) (by decide)
    (by decide) (by decide)).mpr ⟨?_, ?_⟩
  · intro _ first hfirst fifth hfifth
    cases hfirst
    cases hfifth
    decide
  · rintro (h | h) <;> cases h

/-- A ping that was sent 100 ms ago is taken for one without a response in time. -/
theorem afterTwentyFiveDays_not_followsRule :
    ¬ FollowsRule (afterTwentyFiveDays 6000) 0 (2 ^ 31 + 6100) := by
  intro h
  have hstate := h.unreliable
  rw [writeState_updateUnreliable] at hstate
  revert hstate
  decide

end Xrtc.Proofs.Ice
