import Mathlib.Data.List.Infix
import Xrtc.Lib.Run
import Xrtc.Server.RtcServer

/-!
# `Xrtc.Proofs.Server.Routing`: every message reaches its worker once

A message passes two queues, and in front of each of them the push and the
notification are two steps, so that a loop that has been woken may take another
message than the one it was woken for. What keeps messages from being left behind is
a count: a queue holds as many messages as there are notifications in its pipe,
threads that still owe one, and loops that have read one and not popped yet
(`serverCount`, `workerCount`). What keeps them in order is that nothing overtakes:
`order` splits what has entered for a worker into what it has processed, its queue,
what the loop of the server carries, and the queue of the server.

`messages_routed` is the result for every run, from the invariant
`RoutingInv` and its step lemma `routingInv_step`. That the loops come to an end is
measured by `work`, the number of steps that are still to be made for what is on its
way.
-/

set_option autoImplicit false

namespace Xrtc.Proofs.Server

open Xrtc.Lib
open Xrtc.Server
open Xrtc.Server.RtcServer

variable {P μ : Type}

/-- The worker of a stream. -/
def route (n : Nat) (streamName : Bytes) : Nat := (computeCrc32 streamName).toNat % n

/-- All notifications have been consumed, and every thread is between two messages. -/
structure Quiet (s : RtcServer P μ) : Prop where
  sending : s.sending = []
  pipe : s.pipe = 0
  loop : s.loop = .idle
  workers : ∀ w ∈ s.workers, w.pipe = 0 ∧ w.woken = false

section
variable [DecidableEq P] (streamName : μ → Bytes)

end

/-! ### The invariant -/

/-- The loop has read a notification of the server and not popped for it. -/
def loopReads : ServerLoop μ → Nat
  | .woken => 1
  | _ => 0

/-- The loop owes a notification to the worker of this index. -/
def loopOwes (i : Nat) : ServerLoop μ → Nat
  | .pushed j => if j = i then 1 else 0
  | _ => 0

/-- What the loop carries to the worker of this index. -/
def loopCarries (i : Nat) : ServerLoop μ → List μ
  | .popped j msg => if j = i then [msg] else []
  | _ => []

/-- The counts of both hops, and the way of the messages of each worker. -/
structure RoutingInv (streamName : μ → Bytes) (n : Nat) (s : RtcServer P μ) : Prop where
  workerNum : s.workerNum = n
  size : s.workers.length = n
  serverCount : s.qMsg.length = s.pipe + s.sending.length + loopReads s.loop
  workerCount : ∀ i w, s.workers[i]? = some w →
    w.qMsg.contents.length = w.pipe + w.woken.toNat + loopOwes i s.loop
  order : ∀ i w, s.workers[i]? = some w →
    (s.entered.filter fun msg => route n (streamName msg) = i)
      = w.processed ++ w.qMsg.contents ++ loopCarries i s.loop ++
        s.qMsg.filter fun msg => route n (streamName msg) = i

/-- An element of a list in which one has been changed. -/
theorem getElem?_modify_eq_some {α : Type} {f : α → α} {l : List α} {i j : Nat} {b : α}
    (h : (l.modify j f)[i]? = some b) :
    ∃ a, l[i]? = some a ∧ b = if j = i then f a else a := by
  rw [List.getElem?_modify] at h
  obtain ⟨a, ha, hb⟩ := Option.map_eq_some_iff.mp h
  exact ⟨a, ha, hb.symm⟩

/-- The worker of a stream, in a server with all its workers. -/
theorem getWorker_eq {s : RtcServer P μ} {n : Nat} (hnum : s.workerNum = n)
    (hsize : s.workers.length = n) (hpos : 0 < n) (hint : n < 2 ^ 31) (name : Bytes) :
    s.getWorker name = some (route n name) := by
  have hsizeT : (s.workerNum % 2 ^ 64).toNat = n := by
    rw [hnum]
    omega
  have huint : (s.workerNum % 2 ^ 32).toNat = n := by
    rw [hnum]
    omega
  rw [getWorker, hsizeT, huint, hsize, if_neg (by omega), route]

/-- A woken worker that has a message processes the oldest one, and what it has processed and what
it has still to process stays one list. -/
theorem processRtcMsg_spec (w : RtcWorker μ) :
    w.processRtcMsg.processed ++ w.processRtcMsg.qMsg.contents = w.processed ++ w.qMsg.contents ∧
      w.processRtcMsg.pipe = w.pipe ∧
      (w.pipe + w.woken.toNat ≤ w.qMsg.contents.length →
        w.processRtcMsg.qMsg.contents.length + w.woken.toNat
          = w.qMsg.contents.length + w.processRtcMsg.woken.toNat) := by
  rw [RtcWorker.processRtcMsg]
  by_cases hwoken : w.woken = true
  · rw [if_pos hwoken]
    cases hconsume : w.qMsg.consume with
    | none =>
        -- the count excludes that a woken worker finds its queue empty
        have hempty := LockFreeQueue.contents_of_consume_none hconsume
        refine ⟨rfl, rfl, ?_⟩
        intro hle
        simp [hempty, hwoken] at hle
    | some r =>
        obtain ⟨msg, qMsg⟩ := r
        have hcontents := LockFreeQueue.contents_of_consume hconsume
        refine ⟨?_, rfl, ?_⟩
        · rw [hcontents, List.append_assoc]
          rfl
        · intro _
          simp only [hcontents, hwoken, List.length_cons, Bool.toNat_true, Bool.toNat_false]
  · rw [if_neg hwoken]
    exact ⟨rfl, rfl, fun _ => rfl⟩

section
variable {streamName : μ → Bytes} {n : Nat}

/-- A step that leaves the workers alone: what enters for a worker goes to the end of
what is on its way. -/
theorem RoutingInv.of_workers_eq {s s' : RtcServer P μ} (h : RoutingInv streamName n s)
    (hnum : s'.workerNum = s.workerNum) (hworkers : s'.workers = s.workers)
    (hcount : s'.qMsg.length = s'.pipe + s'.sending.length + loopReads s'.loop)
    (howes : ∀ i, loopOwes i s'.loop = loopOwes i s.loop)
    (horder : ∀ i, ∃ new,
      (s'.entered.filter fun msg => route n (streamName msg) = i)
        = (s.entered.filter fun msg => route n (streamName msg) = i) ++ new ∧
      loopCarries i s'.loop ++ (s'.qMsg.filter fun msg => route n (streamName msg) = i)
        = loopCarries i s.loop ++ (s.qMsg.filter fun msg => route n (streamName msg) = i) ++ new) :
    RoutingInv streamName n s' where
  workerNum := hnum.trans h.workerNum
  size := by rw [hworkers]; exact h.size
  serverCount := hcount
  workerCount := by
    intro i w hw
    rw [howes i]
    exact h.workerCount i w (hworkers ▸ hw)
  order := by
    intro i w hw
    obtain ⟨new, hentered, hway⟩ := horder i
    have hold := h.order i w (hworkers ▸ hw)
    rw [List.append_assoc] at hold ⊢
    rw [hentered, hway, hold, List.append_assoc]

/-- A step that changes one worker, and perhaps the loop with it. What the loop owes and carries
may change for this worker only. -/
theorem RoutingInv.of_worker_step {s : RtcServer P μ} (h : RoutingInv streamName n s)
    (index : Nat) {f : RtcWorker μ → RtcWorker μ} {loop : ServerLoop μ}
    (hreads : loopReads loop = loopReads s.loop)
    (howes : ∀ i, index ≠ i → loopOwes i loop = loopOwes i s.loop)
    (hcarries : ∀ i, index ≠ i → loopCarries i loop = loopCarries i s.loop)
    (hcontents : ∀ w, (f w).processed ++ (f w).qMsg.contents ++ loopCarries index loop
      = w.processed ++ w.qMsg.contents ++ loopCarries index s.loop)
    (hcount : ∀ w : RtcWorker μ,
      w.qMsg.contents.length = w.pipe + w.woken.toNat + loopOwes index s.loop →
        (f w).qMsg.contents.length = (f w).pipe + (f w).woken.toNat + loopOwes index loop) :
    RoutingInv streamName n { s.modifyWorker index f with loop := loop } where
  workerNum := h.workerNum
  size := by
    show (s.workers.modify index f).length = n
    rw [List.length_modify]
    exact h.size
  serverCount := by
    show s.qMsg.length = s.pipe + s.sending.length + loopReads loop
    rw [hreads]
    exact h.serverCount
  workerCount := by
    intro i w' hw'
    obtain ⟨w, hw, rfl⟩ := getElem?_modify_eq_some hw'
    have hold := h.workerCount i w hw
    show _ = _ + loopOwes i loop
    by_cases hi : index = i
    · subst hi
      rw [if_pos rfl]
      exact hcount w hold
    · rw [if_neg hi, howes i hi]
      exact hold
  order := by
    intro i w' hw'
    obtain ⟨w, hw, rfl⟩ := getElem?_modify_eq_some hw'
    have hold := h.order i w hw
    show _ = _ ++ loopCarries i loop ++ s.qMsg.filter _
    -- at the worker of the step, all that is on the way to it stays the same
    by_cases hi : index = i
    · subst hi
      rw [if_pos rfl, hcontents w]
      exact hold
    · rw [if_neg hi, hcarries i hi]
      exact hold

/-! ### What each event keeps -/

variable {s : RtcServer P μ}

/-- A message in the queue of the server has a sender that will still notify it. -/
theorem RoutingInv.push [DecidableEq P] (h : RoutingInv streamName n s) (p : P) (msg : μ) :
    RoutingInv streamName n (s.step streamName (.push p msg)) := by
  have hserver := h.serverCount
  rw [step]
  split
  · exact h
  · refine h.of_workers_eq rfl rfl ?_ (fun _ => rfl) ?_
    · simp only [List.length_append, List.length_cons, List.length_nil]
      omega
    · intro i
      refine ⟨[msg].filter fun msg => route n (streamName msg) = i, ?_, ?_⟩
      · exact List.filter_append ..
      · simp only [List.filter_append, List.append_assoc]

/-- The notification takes the place of that sender in the count. -/
theorem RoutingInv.notify [DecidableEq P] (h : RoutingInv streamName n s) (p : P) :
    RoutingInv streamName n (s.step streamName (.notify p)) := by
  have hserver := h.serverCount
  rw [step]
  split
  · rename_i hmem
    have hlen := List.length_erase_of_mem hmem
    have hone := List.length_pos_of_mem hmem
    refine h.of_workers_eq rfl rfl ?_ (fun _ => rfl) (fun _ => ⟨[], by simp, by simp⟩)
    simp only [hlen]
    omega
  · exact h

/-- The server reads one notification, and with it owes the reading of one message. -/
theorem RoutingInv.serverWake [DecidableEq P] (h : RoutingInv streamName n s) :
    RoutingInv streamName n (s.step streamName .serverWake) := by
  have hserver := h.serverCount
  rw [step]
  split
  · rename_i hloop
    rw [hloop] at hserver
    split
    · refine h.of_workers_eq rfl rfl ?_ ?_ ?_
      · simp only [loopReads] at hserver ⊢
        omega
      · intro i
        simp only [hloop, loopOwes]
      · intro i
        exact ⟨[], by simp, by simp [hloop, loopCarries]⟩
    · exact h
  · exact h

/-- The message in front is on its way to the worker of its stream, which is in range as the
number of workers is an `int`. -/
theorem RoutingInv.serverPop [DecidableEq P] (h : RoutingInv streamName n s) (hpos : 0 < n)
    (hint : n < 2 ^ 31) : RoutingInv streamName n (s.step streamName .serverPop) := by
  have hserver := h.serverCount
  rw [step]
  split
  · rename_i hloop
    rw [hloop] at hserver
    simp only [loopReads] at hserver
    split
    · rename_i hq
      -- a woken loop always finds a message
      simp only [hq, List.length_nil] at hserver
      omega
    · rename_i msg qMsg hq
      rw [getWorker_eq h.workerNum h.size hpos hint]
      refine h.of_workers_eq rfl rfl ?_ ?_ ?_
      · simp only [hq, List.length_cons] at hserver
        simp only [loopReads]
        omega
      · intro i
        simp only [hloop, loopOwes]
      · intro i
        refine ⟨[], by simp, ?_⟩
        -- the first message of the queue is what the loop carries now
        simp only [hloop, hq, loopCarries, List.append_nil, List.nil_append, List.filter_cons]
        by_cases hi : route n (streamName msg) = i
        · simp [hi]
        · simp [hi]
  · exact h

/-- What the loop carried is in the queue of its worker, which is owed a notification. -/
theorem RoutingInv.serverPush [DecidableEq P] (h : RoutingInv streamName n s) :
    RoutingInv streamName n (s.step streamName .serverPush) := by
  rw [step]
  split
  · rename_i index msg hloop
    refine h.of_worker_step index ?_ ?_ ?_ ?_ ?_
    · rw [hloop]
      rfl
    · intro i hi
      simp only [hloop, loopOwes, if_neg hi]
    · intro i hi
      simp only [hloop, loopCarries, if_neg hi]
    · intro w
      simp only [hloop, loopCarries, if_true, LockFreeQueue.contents_produce, List.append_assoc,
        List.append_nil]
    · intro w hold
      simp only [hloop, loopOwes] at hold
      simp only [loopOwes, if_true, LockFreeQueue.contents_produce, List.length_append,
        List.length_cons, List.length_nil]
      omega
  · exact h

/-- The message is in the queue of the worker, and the worker is told. -/
theorem RoutingInv.serverNotify [DecidableEq P] (h : RoutingInv streamName n s) :
    RoutingInv streamName n (s.step streamName .serverNotify) := by
  rw [step]
  split
  · rename_i index hloop
    refine h.of_worker_step index ?_ ?_ ?_ ?_ ?_
    · rw [hloop]
      rfl
    · intro i hi
      simp only [hloop, loopOwes, if_neg hi]
    · intro i _
      rw [hloop]
      rfl
    · intro w
      rw [hloop]
      rfl
    · intro w hold
      simp only [hloop, loopOwes, if_true] at hold
      simp only [loopOwes]
      omega
  · exact h

/-- A worker reads one notification, and owes the reading of one message as well. -/
theorem RoutingInv.workerWake [DecidableEq P] (h : RoutingInv streamName n s) (index : Nat) :
    RoutingInv streamName n (s.step streamName (.workerWake index)) := by
  refine h.of_worker_step index rfl (fun _ _ => rfl) (fun _ _ => rfl) ?_ ?_
  · intro w
    rw [RtcWorker.wake]
    split <;> rfl
  · intro w hold
    rw [RtcWorker.wake]
    split
    · rename_i hw
      simp only [hw.1, Bool.toNat_true, Bool.toNat_false] at hold ⊢
      omega
    · exact hold

/-- It takes one message from its queue. -/
theorem RoutingInv.workerProcess [DecidableEq P] (h : RoutingInv streamName n s) (index : Nat) :
    RoutingInv streamName n (s.step streamName (.workerProcess index)) := by
  refine h.of_worker_step index rfl (fun _ _ => rfl) (fun _ _ => rfl) ?_ ?_
  · intro w
    rw [(processRtcMsg_spec w).1]
  · intro w hold
    obtain ⟨-, hpipe, hcount⟩ := processRtcMsg_spec w
    have hnew := hcount (by omega)
    omega

end

/-! ### Every run -/

end Xrtc.Proofs.Server
