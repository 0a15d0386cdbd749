import Xrtc.Lib.Run
import Xrtc.Stream.RtcStreamManager

/-!
# `Xrtc.Proofs.Stream.RtcStreamManager`: which streams the manager can still reach

`Registered` says that no live stream is lost: a stream object that exists is the
value stored for its own name in the map of its own type. The file proves when
this holds along a run of calls.

`create_push_stream` clears the slot of its name whatever uid sits there.
`create_pull_stream` clears it only for the same uid and then overwrites it, so a
pull stream of another uid stays on the heap with no entry left. That is the one
step that leaves `Registered` (`createPullStream_orphans`), and `MeetsSlot` is
the condition that it is not taken. `always_registered_iff` is the exact
statement over runs, an instance of `Lib.always_iff_steps` with the invariant
`Inv`.
-/

set_option autoImplicit false

namespace Xrtc.Proofs.Stream

open Xrtc.Lib
open Xrtc.Pc (PeerConnectionState)
open Xrtc.Stream
open Xrtc.Stream.RtcStreamManager

variable {Pc Cert Source : Type}

/-- Every stream that exists is the value stored for its own name, a push stream
in `_push_streams` and a pull stream in `_pull_streams`. -/
def Registered (m : RtcStreamManager Pc) : Prop :=
  ∀ p stream, m.heap p = some stream →
    (stream.streamType = .push → m.pushStreams stream.streamName = some p) ∧
    (stream.streamType = .pull → m.pullStreams stream.streamName = some p)

/-- The condition on a call and the state before it: a pull stream that the call
would replace has the uid of the call. Every other call meets it. -/
def MeetsSlot (m : RtcStreamManager Pc) : Call Cert → Prop
  | .createPullStream uid streamName _ _ _ _ =>
      m.pushStreams streamName ≠ none →
        ∀ p stream, m.pullStreams streamName = some p → m.heap p = some stream →
          stream.uid = uid
  | _ => True

/-! ### The invariant -/

/-- The invariant behind `Registered`: it also bounds the heap, and it says that
an entry of a map points to a stream of that type and name. -/
structure Inv (m : RtcStreamManager Pc) : Prop where
  registered : ∀ p stream, m.heap p = some stream →
    m.streams stream.streamType stream.streamName = some p
  entry : ∀ t name p, m.streams t name = some p →
    ∃ stream, m.heap p = some stream ∧ stream.streamType = t ∧ stream.streamName = name
  fresh : ∀ p, m.next ≤ p → m.heap p = none

/-- A manager without streams. -/
theorem inv_empty : Inv (empty : RtcStreamManager Pc) where
  registered p stream h := by simp [empty] at h
  entry t name p h := by cases t <;> simp [empty, streams] at h
  fresh p _ := rfl

/-- The invariant says that each stream is found under its name. -/
theorem registered_of_inv {m : RtcStreamManager Pc} (h : Inv m) : Registered m := by
  intro p stream hp
  have hreg := h.registered p stream hp
  constructor
  · intro ht
    rwa [ht] at hreg
  · intro ht
    rwa [ht] at hreg

/-! ### The maps after the elementary updates -/

/-- One of the two maps is replaced, the other one stays. -/
@[simp] theorem streams_setStreams (m : RtcStreamManager Pc) (t t' : RtcStreamType)
    (f : String → Option Nat) :
    (m.setStreams t f).streams t' = if t' = t then f else m.streams t' := by
  cases t <;> cases t' <;> simp [setStreams, streams]

/-- A map is not the heap. -/
@[simp] theorem heap_setStreams (m : RtcStreamManager Pc) (t : RtcStreamType)
    (f : String → Option Nat) : (m.setStreams t f).heap = m.heap := by
  cases t <;> rfl

/-- Nor is it the allocator. -/
@[simp] theorem next_setStreams (m : RtcStreamManager Pc) (t : RtcStreamType)
    (f : String → Option Nat) : (m.setStreams t f).next = m.next := by
  cases t <;> rfl

/-- A stream that is deleted stays in the maps until it is erased there. -/
@[simp] theorem streams_deleteStream (m : RtcStreamManager Pc) (p : Nat) :
    (m.deleteStream p).streams = m.streams := by
  funext t
  cases t <;> rfl

/-- A stream that is new is not yet in them. -/
@[simp] theorem streams_newStream (m : RtcStreamManager Pc) (stream : RtcStream Pc) :
    (m.newStream stream).1.streams = m.streams := by
  funext t
  cases t <;> rfl

/-- An entry after erasing one name. -/
theorem streams_eraseName (m : RtcStreamManager Pc) (t t' : RtcStreamType) (name name' : String) :
    (m.eraseName t name).streams t' name'
      = if t' = t ∧ name' = name then none else m.streams t' name' := by
  unfold eraseName
  rw [streams_setStreams]
  by_cases ht : t' = t
  · subst ht
    by_cases hn : name' = name
    · simp [hn]
    · simp [hn]
  · simp [ht]

/-- An entry after inserting one name. -/
theorem streams_insertName (m : RtcStreamManager Pc) (t t' : RtcStreamType) (name name' : String)
    (p : Nat) :
    (m.insertName t name p).streams t' name'
      = if t' = t ∧ name' = name then some p else m.streams t' name' := by
  unfold insertName
  rw [streams_setStreams]
  by_cases ht : t' = t
  · subst ht
    by_cases hn : name' = name
    · simp [hn]
    · simp [hn]
  · simp [ht]

/-! ### Removing and creating a stream -/

/-- Erasing the entry of a name and deleting its stream keeps the invariant. -/
theorem inv_eraseName_deleteStream {m : RtcStreamManager Pc} (h : Inv m) {t : RtcStreamType}
    {name : String} {p : Nat} (hp : m.streams t name = some p) :
    Inv ((m.eraseName t name).deleteStream p) := by
  obtain ⟨stream, hheap, htype, hname⟩ := h.entry t name p hp
  have hh : ((m.eraseName t name).deleteStream p).heap = Function.update m.heap p none := by
    simp [deleteStream, eraseName]
  refine ⟨?_, ?_, ?_⟩
  · intro q s hq
    rw [hh] at hq
    have hne : q ≠ p := by
      rintro rfl
      simp at hq
    rw [Function.update_of_ne hne] at hq
    have hreg := h.registered q s hq
    rw [streams_deleteStream, streams_eraseName, if_neg, hreg]
    -- the erased slot held `p`, and `q` is another object
    rintro ⟨ht, hn⟩
    rw [ht, hn, hp] at hreg
    exact hne (Option.some.inj hreg).symm
  · intro t' name' q hq
    rw [streams_deleteStream, streams_eraseName] at hq
    split at hq
    · simp at hq
    · rename_i hslot
      obtain ⟨s, hs, hst, hsn⟩ := h.entry t' name' q hq
      have hne : q ≠ p := by
        rintro rfl
        rw [hheap] at hs
        cases hs
        exact hslot ⟨hst.symm.trans htype, hsn.symm.trans hname⟩
      exact ⟨s, by rw [hh, Function.update_of_ne hne, hs], hst, hsn⟩
  · intro q hq
    rw [hh]
    by_cases hqp : q = p
    · simp [hqp]
    · rw [Function.update_of_ne hqp]
      refine h.fresh q ?_
      simpa [deleteStream, eraseName] using hq

/-- `_remove_push_stream` and `_remove_pull_stream` keep the invariant. -/
theorem inv_removeStream {m : RtcStreamManager Pc} (h : Inv m) (t : RtcStreamType)
    (uid : UInt64) (name : String) : Inv (m.removeStream t uid name) := by
  unfold removeStream
  split
  · exact h
  · rename_i p hp
    split
    · exact inv_eraseName_deleteStream h hp
    · exact h

/-- A new stream stored in an empty slot of its type and name keeps the
invariant. -/
theorem inv_newStream_insertName {m : RtcStreamManager Pc} (h : Inv m) {stream : RtcStream Pc}
    {t : RtcStreamType} {name : String} (ht : stream.streamType = t)
    (hn : stream.streamName = name) (hslot : m.streams t name = none) :
    Inv ((m.newStream stream).1.insertName t name (m.newStream stream).2) := by
  have hh : ((m.newStream stream).1.insertName t name (m.newStream stream).2).heap
      = Function.update m.heap m.next (some stream) := by
    simp [newStream, insertName]
  have hnext : ((m.newStream stream).1.insertName t name (m.newStream stream).2).next
      = m.next + 1 := by
    simp [newStream, insertName]
  refine ⟨?_, ?_, ?_⟩
  · intro q s hq
    rw [hh] at hq
    rw [streams_insertName, streams_newStream]
    -- the new object is registered under its name, which had no entry
    by_cases hqn : q = m.next
    · subst hqn
      rw [Function.update_self] at hq
      cases hq
      simp [newStream, ht, hn]
    · rw [Function.update_of_ne hqn] at hq
      have hreg := h.registered q s hq
      rw [if_neg, hreg]
      rintro ⟨hst, hsn⟩
      rw [hst, hsn, hslot] at hreg
      simp at hreg
  · intro t' name' q hq
    rw [streams_insertName, streams_newStream] at hq
    split at hq
    · rename_i htn
      cases hq
      exact ⟨stream, by rw [hh]; simp [newStream], ht.trans htn.1.symm, hn.trans htn.2.symm⟩
    · -- the other entries keep their objects, which are older
      obtain ⟨s, hs, hst, hsn⟩ := h.entry t' name' q hq
      have hne : q ≠ m.next := by
        rintro rfl
        rw [h.fresh m.next (Nat.le_refl _)] at hs
        simp at hs
      exact ⟨s, by rw [hh, Function.update_of_ne hne, hs], hst, hsn⟩
  · intro q hq
    rw [hnext] at hq
    rw [hh, Function.update_of_ne (by omega)]
    exact h.fresh q (by omega)

/-- After `_remove_pull_stream` with the uid of the registered stream, or on an
empty slot, the slot is empty. -/
theorem streams_removeStream_eq_none {m : RtcStreamManager Pc} (h : Inv m) (t : RtcStreamType)
    (uid : UInt64) (name : String)
    (huid : ∀ p stream, m.streams t name = some p → m.heap p = some stream → stream.uid = uid) :
    (m.removeStream t uid name).streams t name = none := by
  unfold removeStream
  split
  · assumption
  · rename_i p hp
    obtain ⟨stream, hheap, -, -⟩ := h.entry t name p hp
    rw [if_pos (by rw [hheap]; simp [huid p stream hp hheap]), streams_deleteStream,
      streams_eraseName]
    simp

/-! ### One call -/

/-- `create_push_stream` keeps the invariant: it clears the slot of the name
before it stores the new stream there. -/
theorem inv_createPushStream (ops : PeerConnectionOps Pc Cert Source) {m : RtcStreamManager Pc}
    (h : Inv m) (uid : UInt64) (name : String) (audio video : Bool) (logId : UInt32)
    (certificate : Cert) :
    Inv (m.createPushStream ops uid name audio video logId certificate).2.2 := by
  unfold createPushStream findPushStream
  cases hp : m.pushStreams name with
  | none =>
      dsimp only
      apply inv_newStream_insertName h
      · rfl
      · rfl
      · exact hp
  | some p =>
      have hinv := inv_eraseName_deleteStream h (t := .push) hp
      dsimp only
      apply inv_newStream_insertName hinv
      · rfl
      · rfl
      · rw [streams_deleteStream, streams_eraseName]
        simp

/-- `create_pull_stream` keeps the invariant when it meets the condition. -/
theorem inv_createPullStream (ops : PeerConnectionOps Pc Cert Source) {m : RtcStreamManager Pc}
    (h : Inv m) (uid : UInt64) (name : String) (audio video : Bool) (logId : UInt32)
    (certificate : Cert)
    (hok : MeetsSlot m (.createPullStream uid name audio video logId certificate)) :
    Inv (m.createPullStream ops uid name audio video logId certificate).2.2 := by
  unfold createPullStream findPushStream
  cases hp : m.pushStreams name with
  | none => exact h
  | some push =>
      dsimp only
      apply inv_newStream_insertName (inv_removeStream h .pull uid name)
      · rfl
      · rfl
      · exact streams_removeStream_eq_none h .pull uid name (hok (by simp [hp]))

/-- Removing a stream by its own uid and name, the body of both callbacks. -/
theorem inv_onStreamException {m : RtcStreamManager Pc} (h : Inv m) (p : Nat) :
    Inv (m.onStreamException p) := by
  unfold onStreamException
  split
  · exact h
  · split
    · exact inv_removeStream h .push _ _
    · exact inv_removeStream h .pull _ _

/-- A failed connection removes its stream under its own name. -/
theorem inv_onConnectionState {m : RtcStreamManager Pc} (h : Inv m) (p : Nat)
    (state : PeerConnectionState) : Inv (m.onConnectionState p state) := by
  unfold onConnectionState
  split
  · exact inv_onStreamException h p
  · exact h

/-- Every call that meets the condition keeps the invariant. -/
theorem inv_step (ops : PeerConnectionOps Pc Cert Source) (m : RtcStreamManager Pc)
    (c : Call Cert) (h : Inv m) (hok : MeetsSlot m c) : Inv (m.step ops c) := by
  cases c with
  | createPushStream uid name audio video logId certificate =>
      exact inv_createPushStream ops h uid name audio video logId certificate
  | createPullStream uid name audio video logId certificate =>
      exact inv_createPullStream ops h uid name audio video logId certificate hok
  | stopPush uid name => exact inv_removeStream h .push uid name
  | stopPull uid name => exact inv_removeStream h .pull uid name
  | onConnectionState p state => exact inv_onConnectionState h p state
  | onStreamException p => exact inv_onStreamException h p

/-- A `create_pull_stream` that finds another uid in its slot orphans the stream
there: the object stays on the heap and the slot points to the new stream. -/
theorem createPullStream_orphans (ops : PeerConnectionOps Pc Cert Source)
    {m : RtcStreamManager Pc} (h : Inv m) (uid : UInt64) (name : String) (audio video : Bool)
    (logId : UInt32) (certificate : Cert) {push p : Nat} {stream : RtcStream Pc}
    (hpush : m.pushStreams name = some push) (hp : m.pullStreams name = some p)
    (hstream : m.heap p = some stream) (huid : stream.uid ≠ uid) :
    ¬ Registered (m.createPullStream ops uid name audio video logId certificate).2.2 := by
  have hslot : m.streams .pull name = some p := hp
  obtain ⟨s, hs, htype, hname⟩ := h.entry .pull name p hslot
  rw [hstream] at hs
  cases hs
  -- the old stream belongs to another user, so it is not removed
  have hkeep : m.removePullStream uid name = m := by
    unfold removePullStream removeStream
    rw [hslot]
    simp only [hstream, Option.map_some, Option.some.injEq, huid, if_false]
  have hne : p ≠ m.next := by
    rintro rfl
    rw [h.fresh m.next (Nat.le_refl _)] at hstream
    simp at hstream
  -- but its entry is overwritten by the new one
  intro hreg
  unfold createPullStream findPushStream at hreg
  rw [hpush] at hreg
  simp only [hkeep] at hreg
  have hp' := (hreg p stream (by
    simp [insertName, newStream, setStreams, Function.update_of_ne hne, hstream])).2 htype
  rw [hname] at hp'
  simp only [insertName, setStreams, newStream, streams, Function.update_self,
    Option.some.injEq] at hp'
  exact hne hp'.symm

/-- A call that misses the condition leads out of `Registered`. -/
theorem not_registered_step (ops : PeerConnectionOps Pc Cert Source) (m : RtcStreamManager Pc)
    (c : Call Cert) (h : Inv m) (hno : ¬ MeetsSlot m c) : ¬ Registered (m.step ops c) := by
  cases c with
  | createPullStream uid name audio video logId certificate =>
      unfold MeetsSlot at hno
      push Not at hno
      obtain ⟨hpush, p, stream, hp, hstream, huid⟩ := hno
      obtain ⟨push, hpush⟩ := Option.ne_none_iff_exists'.mp hpush
      exact createPullStream_orphans ops h uid name audio video logId certificate hpush hp hstream
        huid
  | createPushStream uid name audio video logId certificate => exact absurd trivial hno
  | stopPush uid name => exact absurd trivial hno
  | stopPull uid name => exact absurd trivial hno
  | onConnectionState p state => exact absurd trivial hno
  | onStreamException p => exact absurd trivial hno

/-! ### Whole runs -/

/-- Along a run of calls from the empty manager, every live stream stays
registered under its own name exactly when no `create_pull_stream` of the run
finds a pull stream of another uid under its name. -/
theorem always_registered_iff (ops : PeerConnectionOps Pc Cert Source)
    (calls : List (Call Cert)) :
    Always (step ops) Registered (empty : RtcStreamManager Pc) calls
      ↔ Steps (step ops) MeetsSlot (empty : RtcStreamManager Pc) calls :=
  always_iff_steps (fun _ => registered_of_inv) (fun m c => inv_step ops m c)
    (fun m c => not_registered_step ops m c) inv_empty

/-- A peer connection without state, enough to run the manager. -/
def unitOps : PeerConnectionOps Unit Unit Unit where
  new := ()
  init _ _ := ()
  createOffer _ _ := ((), "")
  remoteStreams _ _ := none
  addAudioSource _ _ := ()
  addVideoSource _ _ := ()

/-- One publisher and two viewers of the same stream. The second viewer's pull
stream replaces the first one's entry, and the first pull stream (object 1) is
live and no longer the value stored for its name. -/
theorem two_viewers_orphan_first :
    ¬ Always (step unitOps) Registered (empty : RtcStreamManager Unit)
      [.createPushStream 1 "room" true true 0 (),
       .createPullStream 2 "room" true true 0 (),
       .createPullStream 3 "room" true true 0 ()] := by
  intro h
  have hlast := (h.last 1 ⟨.pull, 2, "room", true, true, 0, ()⟩ (by decide +kernel)).2 rfl
  revert hlast
  decide +kernel

end Xrtc.Proofs.Stream
