import Xrtc.Proofs.Pc.MediaPath
import Xrtc.Proofs.Pc.ConnectionState
import Xrtc.Proofs.Pc.Signals
import Xrtc.Proofs.Sdk.OfferRecovered
import Xrtc.Proofs.Stream.RtcStreamManager
import Xrtc.Proofs.Stream.SetAnswer
import Xrtc.Stream.MediaWorker

/-!
# `Xrtc.Proofs.Stream.MediaWorker`: what holds of a worker between two events

`WorkerInv` is the invariant of a worker. An entry of a map of the manager leads to a stream
of that type and name, every transport of every stream is sound, a stream that can be found
has not failed, and the timer of a stream that is connected is not running. A pull stream
that another one has replaced is still there, and so this says less than `Registered`.

`settled_step` proves it for every event. The signals of an event change the state of one
stream and remove streams, which `Delivered` sums up, and a packet for SRTP changes only
what has been sent. `settled_of_run` is the consequence for every run.
-/

set_option autoImplicit false

namespace Xrtc.Proofs.Stream

open Xrtc.Lib
open Xrtc.Ice (ascii IceParameters)
open Xrtc.Pc
open Xrtc.Stream
open Xrtc.Proofs.Pc

/-! ### The manager -/

section

variable {Pc : Type} {m : RtcStreamManager Pc} {t : RtcStreamType} {name : String} {p : Nat}

/-- Every entry of a map leads to a stream of its type and name, and new numbers are free. -/
structure Entries (m : RtcStreamManager Pc) : Prop where
  entry : ∀ t name p, m.streams t name = some p →
    ∃ stream, m.heap p = some stream ∧ stream.streamType = t ∧ stream.streamName = name
  fresh : ∀ p, m.next ≤ p → m.heap p = none

/-- The stream of an entry is erased and deleted. -/
def withoutStream (m : RtcStreamManager Pc) (t : RtcStreamType) (name : String) (p : Nat) :
    RtcStreamManager Pc := (m.eraseName t name).deleteStream p

/-- The stream is deleted, the other streams stay. -/
theorem withoutStream_heap : (withoutStream m t name p).heap = Function.update m.heap p none := by
  simp [withoutStream, RtcStreamManager.deleteStream, RtcStreamManager.eraseName]

/-- No number is given back. -/
theorem withoutStream_next : (withoutStream m t name p).next = m.next := by
  simp [withoutStream, RtcStreamManager.deleteStream, RtcStreamManager.eraseName]

/-- The one entry is erased, the others stay. -/
theorem withoutStream_streams (t' : RtcStreamType) (name' : String) :
    (withoutStream m t name p).streams t' name'
      = if t' = t ∧ name' = name then none else m.streams t' name' := by
  unfold withoutStream
  rw [streams_deleteStream, streams_eraseName]

/-- A stream that is left was there before. -/
theorem heap_of_withoutStream {q : Nat} {stream : RtcStream Pc}
    (h : (withoutStream m t name p).heap q = some stream) : q ≠ p ∧ m.heap q = some stream := by
  rw [withoutStream_heap] at h
  by_cases hq : q = p
  · subst hq
    rw [Function.update_self] at h
    cases h
  · rw [Function.update_of_ne hq] at h
    exact ⟨hq, h⟩

/-- An entry that is left was there before. -/
theorem streams_of_withoutStream {t' : RtcStreamType} {name' : String} {q : Nat}
    (h : (withoutStream m t name p).streams t' name' = some q) : m.streams t' name' = some q := by
  rw [withoutStream_streams] at h
  split at h
  · cases h
  · exact h

/-- Erasing an entry with its stream keeps the entries sound. Another entry leads to another
stream, because type and name of a stream tell its entry. -/
theorem Entries.removed (h : Entries m) (hp : m.streams t name = some p) :
    Entries (withoutStream m t name p) := by
  obtain ⟨stream, hheap, htype, hname⟩ := h.entry t name p hp
  constructor
  · intro t' name' q hq
    obtain ⟨s, hs, hst, hsn⟩ := h.entry t' name' q (streams_of_withoutStream hq)
    refine ⟨s, ?_, hst, hsn⟩
    rw [withoutStream_heap, Function.update_of_ne, hs]
    -- an entry of the deleted stream is the one that was erased
    rintro rfl
    rw [hheap] at hs
    cases hs
    rw [withoutStream_streams, if_pos ⟨hst.symm.trans htype, hsn.symm.trans hname⟩] at hq
    cases hq
  · intro q hq
    rw [withoutStream_next] at hq
    rw [withoutStream_heap]
    by_cases hqp : q = p
    · rw [hqp, Function.update_self]
    · rw [Function.update_of_ne hqp, h.fresh q hq]

/-- `_remove_push_stream` and `_remove_pull_stream` remove the stream of an entry or nothing. -/
theorem removeStream_cases (m : RtcStreamManager Pc) (t : RtcStreamType) (uid : UInt64)
    (name : String) :
    m.removeStream t uid name = m ∨
      ∃ p, m.streams t name = some p ∧ m.removeStream t uid name = withoutStream m t name p := by
  unfold RtcStreamManager.removeStream
  split
  · exact .inl rfl
  · rename_i p hp
    split
    · exact .inr ⟨p, hp, rfl⟩
    · exact .inl rfl

/-- A stream that is found under its own name is the one that is removed. -/
theorem removeStream_self {stream : RtcStream Pc} (hheap : m.heap p = some stream)
    (hp : m.streams stream.streamType stream.streamName = some p) :
    m.removeStream stream.streamType stream.uid stream.streamName
      = withoutStream m stream.streamType stream.streamName p := by
  unfold RtcStreamManager.removeStream
  rw [hp]
  simp only [hheap, Option.map_some, if_true]
  rfl

/-- An exception of a stream removes it by its own type, uid and name. -/
theorem onStreamException_eq (m : RtcStreamManager Pc) {stream : RtcStream Pc}
    (hheap : m.heap p = some stream) :
    m.onStreamException p = m.removeStream stream.streamType stream.uid stream.streamName := by
  unfold RtcStreamManager.onStreamException
  rw [hheap]
  dsimp only
  cases stream.streamType <;> rfl

/-- A failed connection removes its stream in the same way, and no other state does anything. -/
theorem onConnectionState_eq (m : RtcStreamManager Pc) {stream : RtcStream Pc}
    (hheap : m.heap p = some stream) (state : PeerConnectionState) :
    m.onConnectionState p state
      = if state = .failed then m.removeStream stream.streamType stream.uid stream.streamName
        else m := by
  unfold RtcStreamManager.onConnectionState
  rw [hheap]
  dsimp only
  cases stream.streamType <;> rfl

/-- A new stream, stored under its name. -/
def withStream (m : RtcStreamManager Pc) (stream : RtcStream Pc) : RtcStreamManager Pc :=
  (m.newStream stream).1.insertName stream.streamType stream.streamName (m.newStream stream).2

/-- The new stream has the next number. -/
theorem withStream_heap (stream : RtcStream Pc) :
    (withStream m stream).heap = Function.update m.heap m.next (some stream) := by
  simp [withStream, RtcStreamManager.newStream, RtcStreamManager.insertName]

/-- The number after that is the next one. -/
theorem withStream_next (stream : RtcStream Pc) : (withStream m stream).next = m.next + 1 := by
  simp [withStream, RtcStreamManager.newStream, RtcStreamManager.insertName]

/-- The entry of its type and name leads to the new stream, whatever it has led to before. -/
theorem withStream_streams (stream : RtcStream Pc) (t' : RtcStreamType) (name' : String) :
    (withStream m stream).streams t' name'
      = if t' = stream.streamType ∧ name' = stream.streamName then some m.next
        else m.streams t' name' := by
  unfold withStream
  rw [streams_insertName, streams_newStream]
  rfl

/-- Registering a new stream keeps the entries sound, since its number was free. -/
theorem Entries.registered (h : Entries m) (stream : RtcStream Pc) :
    Entries (withStream m stream) := by
  constructor
  · intro t' name' q hq
    rw [withStream_streams] at hq
    split at hq
    · rename_i hslot
      cases hq
      exact ⟨stream, by rw [withStream_heap, Function.update_self], hslot.1.symm, hslot.2.symm⟩
    · obtain ⟨s, hs, hst, hsn⟩ := h.entry t' name' q hq
      refine ⟨s, ?_, hst, hsn⟩
      rw [withStream_heap, Function.update_of_ne, hs]
      rintro rfl
      rw [h.fresh m.next (Nat.le_refl _)] at hs
      cases hs
  · intro q hq
    rw [withStream_next] at hq
    rw [withStream_heap, Function.update_of_ne (by omega), h.fresh q (by omega)]

end

/-- A stream with another peer connection. -/
def withPc (m : RtcStreamManager PeerConnection) (p : Nat) (stream : RtcStream PeerConnection)
    (pc : PeerConnection) : RtcStreamManager PeerConnection :=
  { m with heap := Function.update m.heap p (some { stream with pc }) }

section

variable (m : RtcStreamManager PeerConnection) (p : Nat) (stream : RtcStream PeerConnection)
  (pc : PeerConnection)

/-- A stream gets another peer connection. -/
@[simp] theorem withPc_heap :
    (withPc m p stream pc).heap = Function.update m.heap p (some { stream with pc }) := rfl

/-- No entry changes with it. -/
@[simp] theorem withPc_streams : (withPc m p stream pc).streams = m.streams := by
  funext t
  cases t <;> rfl

end

/-! ### The invariant -/

/-- What holds of the peer connection of a stream. -/
structure PcInv (ssl : SslAdapter) (audio : Bool) (pc : PeerConnection) : Prop where
  sound : ∀ name, Sound ssl (pc.transportController.transports name)
  audio : ascii "audio" ∈ pc.transportController.names → audio = true

/-- What holds of a worker. -/
structure WorkerInv (ssl : Nat → SslAdapter) (w : MediaWorker) : Prop where
  entries : Entries w.manager
  pc : ∀ p stream, w.manager.heap p = some stream → PcInv (ssl p) stream.audio stream.pc
  healthy : ∀ t name p, w.manager.streams t name = some p → w.state p ≠ .failed
  watched : ∀ p, w.state p = .connected → w.iceTimeout p = false

/-- The states of the streams are those of their controllers. -/
def Linked (w : MediaWorker) (p : Nat) : Prop :=
  ∀ stream, w.manager.heap p = some stream → w.state p = stream.pc.transportController.pcState

variable {ssl : Nat → SslAdapter} {w : MediaWorker}

/-- A worker without streams satisfies the invariant. -/
theorem workerInv_empty : WorkerInv ssl {} where
  entries := by
    constructor
    · intro t name p h
      cases t <;> cases h
    · exact fun _ _ => rfl
  pc p stream h := by cases h
  healthy t name p h := by cases t <;> cases h
  watched p h := by cases h

/-- Deleting a stream keeps the invariant: it says nothing about a stream that is gone. -/
theorem WorkerInv.removed (h : WorkerInv ssl w) {t : RtcStreamType} {name : String} {p : Nat}
    (hp : w.manager.streams t name = some p) :
    WorkerInv ssl { w with manager := withoutStream w.manager t name p } where
  entries := h.entries.removed hp
  pc q stream hq := h.pc q stream (heap_of_withoutStream hq).2
  healthy t' name' q hq := h.healthy t' name' q (streams_of_withoutStream hq)
  watched := h.watched

/-- So does a call that removes a stream, if it finds one of that uid. -/
theorem WorkerInv.removeStream (h : WorkerInv ssl w) (t : RtcStreamType) (uid : UInt64)
    (name : String) : WorkerInv ssl { w with manager := w.manager.removeStream t uid name } := by
  rcases removeStream_cases w.manager t uid name with heq | ⟨p, hp, heq⟩
  · rw [heq]
    exact h
  · rw [heq]
    exact h.removed hp

/-- The peer connection of a stream changes, and the stream stays where it was, under its type and
name. -/
theorem WorkerInv.withPc (h : WorkerInv ssl w) {p : Nat} {stream : RtcStream PeerConnection}
    (hheap : w.manager.heap p = some stream) {pc : PeerConnection}
    (hpc : PcInv (ssl p) stream.audio pc) :
    WorkerInv ssl { w with manager := withPc w.manager p stream pc } where
  -- the stream keeps its place, its type and its name
  entries := by
    constructor
    · intro t name q hq
      rw [withPc_streams] at hq
      obtain ⟨s, hs, hst, hsn⟩ := h.entries.entry t name q hq
      rw [withPc_heap]
      by_cases hqp : q = p
      · subst hqp
        rw [hheap] at hs
        cases hs
        exact ⟨{ stream with pc }, Function.update_self .., hst, hsn⟩
      · exact ⟨s, by rw [Function.update_of_ne hqp, hs], hst, hsn⟩
    · intro q hq
      have hqp : q ≠ p := by
        rintro rfl
        rw [h.entries.fresh q hq] at hheap
        cases hheap
      rw [withPc_heap, Function.update_of_ne hqp, h.entries.fresh q hq]
  pc q s hq := by
    rw [withPc_heap] at hq
    by_cases hqp : q = p
    · subst hqp
      rw [Function.update_self] at hq
      cases hq
      exact hpc
    · rw [Function.update_of_ne hqp] at hq
      exact h.pc q s hq
  healthy t name q hq := h.healthy t name q (by rwa [withPc_streams] at hq)
  watched := h.watched

/-- A new stream, with its timer running, is found under its name. Its state is that of a new
connection, which has neither failed nor connected. -/
theorem WorkerInv.registered (h : WorkerInv ssl w) {stream : RtcStream PeerConnection}
    (hpc : PcInv (ssl w.manager.next) stream.audio stream.pc) :
    WorkerInv ssl { w with
      manager := withStream w.manager stream
      state := Function.update w.state w.manager.next .new
      iceTimeout := Function.update w.iceTimeout w.manager.next true } where
  entries := h.entries.registered stream
  pc q s hq := by
    rw [withStream_heap] at hq
    by_cases hqn : q = w.manager.next
    · subst hqn
      rw [Function.update_self] at hq
      cases hq
      exact hpc
    · rw [Function.update_of_ne hqn] at hq
      exact h.pc q s hq
  -- a stream that is new is found under its name, and its state is not `failed`
  healthy t name q hq := by
    rw [withStream_streams] at hq
    dsimp only
    by_cases hqn : q = w.manager.next
    · rw [hqn, Function.update_self]
      decide
    · rw [Function.update_of_ne hqn]
      split at hq
      · exact absurd (Option.some.inj hq).symm hqn
      · exact h.healthy t name q hq
  watched q hq := by
    dsimp only at hq ⊢
    by_cases hqn : q = w.manager.next
    · rw [hqn, Function.update_self] at hq
      cases hq
    · rw [Function.update_of_ne hqn] at hq ⊢
      exact h.watched q hq

/-! ### New streams -/

/-- A transport that is there after the loop over the sections was there before, or is that of a
section. -/
theorem mem_addTransports_names {mids : List Bytes} {c : TransportController} {name : Bytes}
    (h : name ∈ (c.addTransports mids).names) : name ∈ c.names ∨ name ∈ mids := by
  unfold TransportController.addTransports at h
  induction mids generalizing c with
  | nil => exact .inl h
  | cons mid mids ih =>
      rcases ih h with hname | hname
      · unfold TransportController.addTransport at hname
        dsimp only at hname
        split at hname
        · exact .inl hname
        · rcases List.mem_append.mp hname with hold | hnew
          · exact .inl hold
          · exact .inr (List.mem_cons.mpr (.inl (List.mem_singleton.mp hnew)))
      · exact .inr (List.mem_cons_of_mem _ hname)

/-- An offer has an audio section only if audio was asked for. -/
theorem audio_of_mem_offer {pc : PeerConnection} {options : Pc.RTCOfferAnswerOptions}
    {iceParam : IceParameters}
    (h : ascii "audio" ∈ ((pc.offerDescription options iceParam).transportSections.map
      MediaContentDescription.mid)) :
    options.sendAudio = true ∨ options.recvAudio = true := by
  obtain ⟨content, hcontent, hmid⟩ := List.mem_map.mp h
  have hmem : content ∈ (pc.offerDescription options iceParam).contents :=
    (List.mem_filter.mp hcontent).1
  rw [Sdk.offerDescription_eq] at hmem
  obtain ⟨type, htype, rfl⟩ := List.mem_map.mp hmem
  unfold MediaContentDescription.mid at hmid
  rw [Sdk.offerContent_type] at hmid
  cases type with
  | video => exact absurd hmid (by decide)
  | audio =>
      unfold Sdk.offerTypes at htype
      cases hsend : options.sendAudio with
      | true => exact .inl rfl
      | false =>
          cases hrecv : options.recvAudio with
          | true => exact .inr rfl
          | false => simp [hsend, hrecv] at htype

/-- A peer connection that has just made its offer has sound transports, one of them for audio
only if the stream has audio. Each transport is a new one, which is sound by itself. -/
theorem pcInv_createOffer (ssl : SslAdapter) (ntop6 : Vector UInt8 16 → Bytes) (draw : OfferDraw)
    (certificate : Option LocalCertificate) {pc : PeerConnection} (hpc : pc.transportController = {})
    (options : Stream.RTCOfferAnswerOptions) :
    PcInv ssl (options.sendAudio || options.recvAudio)
      ((initPeerConnection pc certificate).createOffer ntop6 draw.allocated
        (offerAnswerOptions options) draw.iceParam).2 := by
  have hcontroller : (initPeerConnection pc certificate).transportController
      = freshController (certificate.map LocalCertificate.certificate) := by
    unfold initPeerConnection freshController
    rw [hpc]
  have hfresh : ∀ name, Sound ssl ((freshController
      (certificate.map LocalCertificate.certificate)).transports name) :=
    fun _ => Sound.of_srtp_eq rfl (by unfold freshController; simp)
  unfold PeerConnection.createOffer
  split
  · -- without a certificate there is no offer and no transport
    constructor
    · rw [hcontroller]
      exact hfresh
    · intro hname
      rw [hcontroller] at hname
      cases hname
  · constructor
    · intro name
      dsimp only
      unfold TransportController.setLocalDescription
      rw [hcontroller]
      exact sound_addTransports _ hfresh name
    · intro hname
      dsimp only at hname
      unfold TransportController.setLocalDescription at hname
      rw [hcontroller] at hname
      rcases mem_addTransports_names hname with hold | hnew
      · exact absurd hold (List.not_mem_nil)
      · rcases audio_of_mem_offer hnew with hsend | hrecv
        · rw [Bool.or_eq_true]
          exact .inl hsend
        · rw [Bool.or_eq_true]
          exact .inr hrecv

/-- Its state is new: no transport has changed a state yet, and the state of the controller is
computed from theirs. -/
theorem pcState_createOffer (ntop6 : Vector UInt8 16 → Bytes) (draw : OfferDraw)
    (certificate : Option LocalCertificate) {pc : PeerConnection} (hpc : pc.transportController = {})
    (options : Stream.RTCOfferAnswerOptions) :
    (((initPeerConnection pc certificate).createOffer ntop6 draw.allocated
      (offerAnswerOptions options) draw.iceParam).2).transportController.pcState = .new := by
  have hcontroller : (initPeerConnection pc certificate).transportController
      = freshController (certificate.map LocalCertificate.certificate) := by
    unfold initPeerConnection freshController
    rw [hpc]
  have hnew : AllNew (freshController (certificate.map LocalCertificate.certificate)) :=
    ⟨fun _ => ⟨rfl, rfl⟩, rfl, rfl⟩
  unfold PeerConnection.createOffer
  split
  · rw [hcontroller]
    rfl
  · dsimp only
    unfold TransportController.setLocalDescription
    rw [hcontroller]
    exact (hnew.addTransports _).pcState

/-! ### Between two events -/

/-- The invariant, and every stream has heard the last state of its controller. -/
structure Settled (ssl : Nat → SslAdapter) (w : MediaWorker) : Prop where
  inv : WorkerInv ssl w
  linked : ∀ p, Linked w p

/-- A worker without streams is settled. -/
theorem settled_empty : Settled ssl {} := ⟨workerInv_empty, fun p stream h => by cases h⟩

/-- A stream that is deleted leaves the others settled. -/
theorem Settled.removed (h : Settled ssl w) {t : RtcStreamType} {name : String} {p : Nat}
    (hp : w.manager.streams t name = some p) :
    Settled ssl { w with manager := withoutStream w.manager t name p } :=
  ⟨h.inv.removed hp, fun q stream hq => h.linked q stream (heap_of_withoutStream hq).2⟩

/-- So does a call that removes a stream. -/
theorem Settled.removeStream (h : Settled ssl w) (t : RtcStreamType) (uid : UInt64)
    (name : String) : Settled ssl { w with manager := w.manager.removeStream t uid name } := by
  rcases removeStream_cases w.manager t uid name with heq | ⟨p, hp, heq⟩
  · rw [heq]
    exact h
  · rw [heq]
    exact h.removed hp

/-- A new stream is settled when its connection is sound and in its first state. -/
theorem Settled.registered (h : Settled ssl w) {stream : RtcStream PeerConnection}
    (hpc : PcInv (ssl w.manager.next) stream.audio stream.pc)
    (hnew : stream.pc.transportController.pcState = .new) :
    Settled ssl { w with
      manager := withStream w.manager stream
      state := Function.update w.state w.manager.next .new
      iceTimeout := Function.update w.iceTimeout w.manager.next true } := by
  refine ⟨h.inv.registered hpc, fun q s hq => ?_⟩
  rw [withStream_heap] at hq
  dsimp only
  by_cases hqn : q = w.manager.next
  · subst hqn
    rw [Function.update_self] at hq
    cases hq
    rw [Function.update_self, hnew]
  · rw [Function.update_of_ne hqn] at hq
    rw [Function.update_of_ne hqn, h.linked q s hq]

/-- The options of a stream ask for audio exactly if the stream has audio. -/
theorem offerOptions_audio {Pc : Type} (stream : RtcStream Pc) :
    (stream.offerOptions.sendAudio || stream.offerOptions.recvAudio) = stream.audio := by
  unfold RtcStream.offerOptions
  cases stream.streamType <;> simp

variable (ntop6 : Vector UInt8 16 → Bytes)

/-- The stream that a message creates, with its offer. -/
theorem Settled.offered (h : Settled ssl w) (draw : OfferDraw)
    (certificate : Option LocalCertificate) (stream : RtcStream PeerConnection)
    (hpc : stream.pc.transportController = {}) :
    Settled ssl { w with
      manager := withStream w.manager { stream with
        pc := ((peerConnectionOps ntop6 draw).createOffer
          ((peerConnectionOps ntop6 draw).init stream.pc certificate) stream.offerOptions).1 }
      state := Function.update w.state w.manager.next .new
      iceTimeout := Function.update w.iceTimeout w.manager.next true } := by
  apply h.registered
  · have hcreated := pcInv_createOffer (ssl w.manager.next) ntop6 draw certificate hpc
      stream.offerOptions
    rw [offerOptions_audio] at hcreated
    exact hcreated
  · exact pcState_createOffer ntop6 draw certificate hpc stream.offerOptions

variable (uid : UInt64) (name : String) (audio video : Bool) (logId : UInt32)
  (certificate : Option LocalCertificate) (draw : OfferDraw)

/-- A push request ends settled. A push stream of the same name is deleted first, whatever its
uid. -/
theorem Settled.push (h : Settled ssl w) :
    Settled ssl (w.created (w.manager.createPushStream (peerConnectionOps ntop6 draw) uid name
      audio video logId certificate)) := by
  unfold RtcStreamManager.createPushStream RtcStreamManager.findPushStream
  cases hp : w.manager.pushStreams name with
  | none =>
      exact h.offered ntop6 draw certificate ⟨.push, uid, name, audio, video, logId, {}⟩ rfl
  | some p =>
      have hremoved := h.removed (t := .push) hp
      exact hremoved.offered ntop6 draw certificate
        ⟨.push, uid, name, audio, video, logId, {}⟩ rfl

/-- A pull request ends settled. Without a push stream of the name nothing happens, and else the
pull stream of the same uid is removed first. -/
theorem Settled.pull (h : Settled ssl w) :
    Settled ssl (w.created (w.manager.createPullStream (peerConnectionOps ntop6 draw) uid name
      audio video logId certificate)) := by
  unfold RtcStreamManager.createPullStream RtcStreamManager.findPushStream
  cases hp : w.manager.pushStreams name with
  | none => exact h
  | some push =>
      -- the sources do not touch the transports
      have hnext : (w.manager.removePullStream uid name).next = w.manager.next := by
        rcases removeStream_cases w.manager .pull uid name with heq | ⟨p, -, heq⟩
        · unfold RtcStreamManager.removePullStream
          rw [heq]
        · unfold RtcStreamManager.removePullStream
          rw [heq, withoutStream_next]
      have hremoved := h.removeStream .pull uid name
      have hoffered := fun pc hpc => hremoved.offered ntop6 draw certificate
        ⟨.pull, uid, name, audio, video, logId, pc⟩ hpc
      dsimp only at hoffered
      rw [show (w.manager.removeStream .pull uid name).next = w.manager.next from hnext] at hoffered
      exact hoffered _ rfl

/-! ### Signals -/

variable (crypto : SrtpCrypto)

/-- A stream that hears that its connection has failed can no longer be found. -/
theorem WorkerInv.onConnectionState (h : WorkerInv ssl w) (p : Nat)
    (state : PeerConnectionState) : WorkerInv ssl (w.onConnectionState p state) := by
  unfold MediaWorker.onConnectionState
  split
  · exact h
  rename_i stream hheap
  split
  · exact h
  -- the manager first, with the old states
  have hmanager : WorkerInv ssl { w with manager := w.manager.onConnectionState p state } := by
    rw [onConnectionState_eq _ hheap]
    split
    · exact h.removeStream _ _ _
    · exact h
  refine ⟨hmanager.entries, hmanager.pc, ?_, ?_⟩
  · intro t name q hq
    dsimp only at hq ⊢
    by_cases hqp : q = p
    swap
    · rw [Function.update_of_ne hqp]
      exact hmanager.healthy t name q hq
    subst hqp
    rw [Function.update_self]
    intro hfailed
    -- the entry that led to the stream has been erased
    rw [onConnectionState_eq _ hheap, if_pos hfailed] at hq
    obtain ⟨s, hs, htype, hname⟩ := hmanager.entries.entry t name q (by
      rw [onConnectionState_eq _ hheap, if_pos hfailed]
      exact hq)
    have hold : w.manager.streams t name = some q := by
      rcases removeStream_cases w.manager stream.streamType stream.uid stream.streamName with
        heq | ⟨q', -, heq⟩
      · rwa [heq] at hq
      · rw [heq] at hq
        exact streams_of_withoutStream hq
    obtain ⟨s', hs', htype', hname'⟩ := h.entries.entry t name q hold
    rw [hheap] at hs'
    cases hs'
    rw [← htype', ← hname'] at hold hq
    rw [removeStream_self hheap hold, withoutStream_streams, if_pos ⟨rfl, rfl⟩] at hq
    cases hq
  · intro q hq
    dsimp only at hq ⊢
    by_cases hqp : q = p
    · subst hqp
      rw [Function.update_self] at hq
      rw [if_pos hq, Function.update_self]
    · rw [Function.update_of_ne hqp] at hq
      split
      · rw [Function.update_of_ne hqp]
        exact h.watched q hq
      · exact h.watched q hq

/-- What signals to the stream `p` leave as it was. -/
structure Delivered (w w' : MediaWorker) (p : Nat) : Prop where
  sent : w'.sent = w.sent
  cryptoCalls : w'.cryptoCalls = w.cryptoCalls
  heap : ∀ q stream, w'.manager.heap q = some stream → w.manager.heap q = some stream
  state_of_ne : ∀ q, q ≠ p → w'.state q = w.state q

/-- Without a signal nothing changes. -/
theorem Delivered.refl (w : MediaWorker) (p : Nat) : Delivered w w p :=
  ⟨rfl, rfl, fun _ _ h => h, fun _ _ => rfl⟩

/-- Signals one after the other change what each of them changes. -/
theorem Delivered.trans {w₁ w₂ w₃ : MediaWorker} {p : Nat} (h : Delivered w₁ w₂ p)
    (h' : Delivered w₂ w₃ p) : Delivered w₁ w₃ p where
  sent := h'.sent.trans h.sent
  cryptoCalls := h'.cryptoCalls.trans h.cryptoCalls
  heap q stream hq := h.heap q stream (h'.heap q stream hq)
  state_of_ne q hq := (h'.state_of_ne q hq).trans (h.state_of_ne q hq)

/-- What a state of the connection may change: the state and the timer of this stream, and whether
the stream is still registered. -/
theorem delivered_onConnectionState (w : MediaWorker) (p : Nat) (state : PeerConnectionState) :
    Delivered w (w.onConnectionState p state) p := by
  unfold MediaWorker.onConnectionState
  split
  · exact .refl w p
  rename_i stream hheap
  split
  · exact .refl w p
  refine ⟨rfl, rfl, ?_, fun q hq => Function.update_of_ne hq ..⟩
  intro q s hq
  dsimp only at hq
  rw [onConnectionState_eq _ hheap] at hq
  split at hq
  · rcases removeStream_cases w.manager stream.streamType stream.uid stream.streamName with
      heq | ⟨q', -, heq⟩
    · rwa [heq] at hq
    · rw [heq] at hq
      exact (heap_of_withoutStream hq).2
  · exact hq

/-- A stream that is still there after a signal has the state of the signal. -/
theorem state_onConnectionState {p : Nat} {state : PeerConnectionState}
    {stream : RtcStream PeerConnection}
    (h : (w.onConnectionState p state).manager.heap p = some stream) :
    (w.onConnectionState p state).state p = state := by
  have hheap := (delivered_onConnectionState w p state).heap p stream h
  unfold MediaWorker.onConnectionState
  rw [hheap]
  dsimp only
  split
  · assumption
  · exact Function.update_self ..

/-- The last state of a record that begins with an entry. -/
theorem lastState_concat (initial : PeerConnectionState) (log : List Entry) (e : Entry) :
    lastState initial (log ++ [e]) = lastState (lastState initial [e]) log := by
  induction log with
  | nil => rfl
  | cons e' log ih => cases e' <;> simp_all [lastState]

/-- Signals of a controller, none of them a packet. -/
theorem WorkerInv.deliver (p : Nat) {entries : List Entry}
    (hread : ∀ e ∈ entries, IsRead e = false) {w : MediaWorker} (h : WorkerInv ssl w) :
    WorkerInv ssl (entries.foldl (MediaWorker.deliver crypto p) w) ∧
      Delivered w (entries.foldl (MediaWorker.deliver crypto p) w) p ∧
      ∀ stream, (entries.foldl (MediaWorker.deliver crypto p) w).manager.heap p = some stream →
        (entries.foldl (MediaWorker.deliver crypto p) w).state p
          = lastState (w.state p) entries.reverse := by
  induction entries generalizing w with
  | nil => exact ⟨h, .refl w p, fun _ _ => rfl⟩
  | cons e entries ih =>
      have hrest := fun e' he' => hread e' (List.mem_cons_of_mem e he')
      rw [List.reverse_cons, lastState_concat, List.foldl_cons]
      cases e with
      | readPacket => exact absurd (hread _ List.mem_cons_self) (by simp [IsRead])
      | startSSL | handlePacket | receivedPacket | closed => exact ih hrest h
      | connectionState state =>
          obtain ⟨hinv, hdelivered, hstate⟩ := ih hrest (h.onConnectionState p state)
          refine ⟨hinv, (delivered_onConnectionState w p state).trans hdelivered, ?_⟩
          intro stream hheap
          rw [MediaWorker.deliver, hstate stream hheap]
          -- the stream was there after the first signal too
          rw [state_onConnectionState (hdelivered.heap p stream hheap)]
          rfl

/-- The signals of an event without a packet leave the worker settled, and send nothing. -/
theorem Settled.signal (h : Settled ssl w) {p : Nat} {stream : RtcStream PeerConnection}
    (hheap : w.manager.heap p = some stream) {pc : PeerConnection}
    (hpc : PcInv (ssl p) stream.audio pc)
    (hlast : lastState stream.pc.transportController.pcState pc.transportController.log
      = pc.transportController.pcState)
    (hread : ∀ e ∈ pc.transportController.log, IsRead e = false) :
    Settled ssl (w.signal crypto p stream pc) ∧ (w.signal crypto p stream pc).sent = w.sent := by
  have hread' : ∀ e ∈ pc.transportController.log.reverse, IsRead e = false :=
    fun e he => hread e (List.mem_reverse.mp he)
  obtain ⟨hinv, hdelivered, hstate⟩ := (h.inv.withPc hheap hpc).deliver crypto p hread'
  refine ⟨⟨hinv, fun q s hq => ?_⟩, hdelivered.sent⟩
  have hold := hdelivered.heap q s hq
  rw [withPc_heap] at hold
  by_cases hqp : q = p
  · subst hqp
    rw [Function.update_self] at hold
    cases hold
    show _ = pc.transportController.pcState
    rw [← hlast, ← h.linked q stream hheap]
    have hlog := hstate _ hq
    rwa [List.reverse_reverse] at hlog
  · rw [Function.update_of_ne hqp] at hold
    rw [← h.linked q s hold]
    exact hdelivered.state_of_ne q hqp

/-! ### Answers -/

/-- An answer changes the controller through `set_remote_description` or not at all. -/
theorem setRemoteSdp_controller {ssl : SslAdapter} {pc pc' : PeerConnection} {sdp : Bytes} {ret : Int}
    (h : pc.setRemoteSdp ssl sdp = .returns ret pc') :
    pc'.transportController = pc.transportController ∨
      ∃ desc, pc.transportController.setRemoteDescription ssl desc
        = some pc'.transportController := by
  unfold PeerConnection.setRemoteSdp at h
  split at h
  · cases h
    exact .inl rfl
  · split at h
    · cases h
    · cases h
      exact .inl rfl
    · split at h
      · cases h
      · rename_i hdesc
        cases h
        exact .inr ⟨_, hdesc⟩

/-- The remote description keeps every transport sound. It gives a transport its fingerprint and
the parameters of its peer, and the transports of other names stay as they are. -/
theorem sound_setRemoteDescription {ssl : SslAdapter} {c c' : TransportController}
    {desc : SessionDescription} (h : ∀ name, Sound ssl (c.transports name))
    (hdesc : c.setRemoteDescription ssl desc = some c') (name : Bytes) :
    Sound ssl (c'.transports name) := by
  refine @invariant_of_runPartial _ _ (fun c => ∀ name, Sound ssl (c.transports name)) _ ?_ _ _ _
    h hdesc name
  intro c content c' hnext h
  unfold TransportController.setRemoteTransport at hnext
  split at hnext
  · cases hnext
    exact h
  · rename_i td _
    -- the parameters of the channel
    have hparams : ∀ name, Sound ssl ((c.setRemoteIceParams content.mid
        ⟨td.iceUfrag, td.icePwd⟩).transports name) := by
      intro name
      unfold TransportController.setRemoteIceParams
      split
      · by_cases hne : name = content.mid
        · subst hne
          rw [TransportController.modify_self]
          exact (h _).congr rfl rfl rfl
        · rw [TransportController.modify_of_ne _ _ _ hne]
          exact h name
      · exact h name
    dsimp only at hnext
    split at hnext
    · split at hnext
      · cases hnext
      · cases hnext
        exact sound_of_actions (actions_setRemoteFingerprint ssl _ _) hparams
    · cases hnext
      exact hparams

/-- What holds of a stream holds of it without its record. -/
theorem PcInv.clearLog {ssl : SslAdapter} {audio : Bool} {pc : PeerConnection}
    (h : PcInv ssl audio pc) : PcInv ssl audio (MediaWorker.clearLog pc) := ⟨h.sound, h.audio⟩

/-- What an answer can do to a worker: nothing, or the signals of the stream that it reaches. -/
theorem setAnswer_cases {uid : UInt64} {name : String} {answer : Bytes} {streamType : String}
    {w' : MediaWorker} (hanswer : w.setAnswer crypto ssl uid name answer streamType = some w') :
    w' = w ∨ ∃ t p stream ret pc, streamType = typeName t ∧ w.manager.streams t name = some p ∧
      w.manager.heap p = some stream ∧ stream.uid = uid ∧
      (MediaWorker.clearLog stream.pc).setRemoteSdp (ssl p) answer = .returns ret pc ∧
      w' = w.signal crypto p stream pc := by
  -- either type, once the stream is looked up
  have hreached : ∀ t, streamType = typeName t →
      w.answerStream crypto ssl t uid name answer = some w' →
        w' = w ∨ ∃ t p stream ret pc, streamType = typeName t ∧
          w.manager.streams t name = some p ∧ w.manager.heap p = some stream ∧ stream.uid = uid ∧
          (MediaWorker.clearLog stream.pc).setRemoteSdp (ssl p) answer = .returns ret pc ∧
          w' = w.signal crypto p stream pc := by
    intro t htype h
    rcases answerStreamWith_cases h with hsame | ⟨p, stream, hp, hheap, huid, hset⟩
    · exact .inl hsame
    · cases hsdp : (MediaWorker.clearLog stream.pc).setRemoteSdp (ssl p) answer with
      | returns ret pc =>
          rw [hsdp] at hset
          cases hset
          exact .inr ⟨t, p, stream, ret, pc, htype, hp, hheap, huid, hsdp, rfl⟩
      | outOfRange =>
          rw [hsdp] at hset
          cases hset
      | nullPointer =>
          rw [hsdp] at hset
          cases hset
  unfold MediaWorker.setAnswer at hanswer
  split_ifs at hanswer with hpush hpull
  · exact hreached .push hpush.symm hanswer
  · exact hreached .pull hpull.symm hanswer
  · cases hanswer
    exact .inl rfl

/-- An answer sends no packet, and what holds between two events holds again. -/
theorem Settled.setAnswer (h : Settled ssl w) {uid : UInt64} {name : String} {answer : Bytes}
    {streamType : String} {w' : MediaWorker}
    (hanswer : w.setAnswer crypto ssl uid name answer streamType = some w') :
    Settled ssl w' ∧ w'.sent = w.sent := by
  rcases setAnswer_cases crypto hanswer with
    rfl | ⟨t, p, stream, ret, pc, -, -, hheap, -, hsdp, rfl⟩
  · exact ⟨h, rfl⟩
  have hpc := (h.inv.pc p stream hheap).clearLog
  rcases setRemoteSdp_controller hsdp with hsame | ⟨desc, hdesc⟩
  · -- the record is empty
    refine h.signal crypto hheap ⟨?_, ?_⟩ ?_ ?_
    · rw [hsame]
      exact hpc.sound
    · rw [hsame]
      exact hpc.audio
    · rw [hsame]
      rfl
    · rw [hsame]
      exact fun e he => absurd he List.not_mem_nil
  · refine h.signal crypto hheap ⟨?_, ?_⟩ ?_ ?_
    · exact sound_setRemoteDescription hpc.sound hdesc
    · rw [(kept_names _).setRemoteDescription (ssl p) rfl hdesc]
      exact hpc.audio
    · exact (kept_lastState stream.pc.transportController.pcState).setRemoteDescription (ssl p)
        rfl hdesc
    · exact kept_noRead.setRemoteDescription (ssl p)
        (fun e he => absurd he List.not_mem_nil) hdesc

/-! ### Events at a transport -/

/-- An event that is no packet for SRTP sends nothing. -/
theorem Settled.transportEvent (h : Settled ssl w) {p : Nat} {stream : RtcStream PeerConnection}
    (hheap : w.manager.heap p = some stream) {name : Bytes} {e : TransportController.Event}
    (harrives : ¬ Arrives stream.pc.transportController name e) :
    Settled ssl (w.transportEvent crypto ssl p name e) ∧
      (w.transportEvent crypto ssl p name e).sent = w.sent := by
  have hpc := (h.inv.pc p stream hheap).clearLog
  have harrives' : ¬ Arrives (MediaWorker.clearLog stream.pc).transportController name e := by
    cases e <;> exact harrives
  unfold MediaWorker.transportEvent
  rw [hheap]
  dsimp only
  refine h.signal crypto hheap ⟨?_, ?_⟩ ?_ ?_
  · exact sound_step hpc.sound _
  · rw [step_names]
    exact hpc.audio
  · exact step_lastState (ssl p) (c := (MediaWorker.clearLog stream.pc).transportController) rfl
      (name, e)
  · exact step_noRead (ssl p) (c := (MediaWorker.clearLog stream.pc).transportController) rfl
      harrives'

/-- A packet changes the number of calls of libsrtp and what has been sent. -/
theorem onReadPacket_eq (w : MediaWorker) (p : Nat) (name data : Bytes) :
    ∃ cryptoCalls sent, w.onReadPacket crypto p name data = { w with cryptoCalls, sent } := by
  unfold MediaWorker.onReadPacket
  split
  · exact ⟨_, _, rfl⟩
  · dsimp only
    split
    · exact ⟨_, _, rfl⟩
    · split
      · exact ⟨_, _, rfl⟩
      · unfold MediaWorker.send
        dsimp only
        split
        · exact ⟨_, _, rfl⟩
        · split
          · exact ⟨_, _, rfl⟩
          · exact ⟨_, _, rfl⟩

/-- A packet for SRTP leaves the transports of its stream alone. -/
theorem transportEvent_arrives {p : Nat} {stream : RtcStream PeerConnection}
    (hheap : w.manager.heap p = some stream) {name buf : Bytes} {ts : Int}
    (harrives : Arrives stream.pc.transportController name (.readPacket buf ts)) :
    w.transportEvent crypto ssl p name (.readPacket buf ts)
      = ({ w with manager := withPc w.manager p stream { stream.pc with
            transportController := (MediaWorker.clearLog stream.pc).transportController.push
              (.readPacket name buf ts) } } : MediaWorker).onReadPacket crypto p name buf := by
  have harrives' : Arrives (MediaWorker.clearLog stream.pc).transportController name
      (.readPacket buf ts) := harrives
  unfold MediaWorker.transportEvent
  rw [hheap]
  dsimp only
  rw [step_arrives (ssl p) harrives']
  rfl

/-- A packet for SRTP leaves the worker settled. It is handed up as it comes out of SRTP and may
be sent on, which changes no stream. -/
theorem Settled.transportEvent_arrives (h : Settled ssl w) {p : Nat}
    {stream : RtcStream PeerConnection} (hheap : w.manager.heap p = some stream)
    {name buf : Bytes} {ts : Int}
    (harrives : Arrives stream.pc.transportController name (.readPacket buf ts)) :
    Settled ssl (w.transportEvent crypto ssl p name (.readPacket buf ts)) := by
  rw [Stream.transportEvent_arrives crypto hheap harrives]
  generalize hw : ({ w with manager := withPc w.manager p stream { stream.pc with
    transportController := (MediaWorker.clearLog stream.pc).transportController.push
      (.readPacket name buf ts) } } : MediaWorker) = w₁
  have hsettled : Settled ssl w₁ := by
    have hpc := h.inv.pc p stream hheap
    rw [← hw]
    refine ⟨h.inv.withPc hheap ⟨hpc.sound, hpc.audio⟩, fun q s hq => ?_⟩
    dsimp only at hq
    rw [withPc_heap] at hq
    by_cases hqp : q = p
    · subst hqp
      rw [Function.update_self] at hq
      cases hq
      exact h.linked q stream hheap
    · rw [Function.update_of_ne hqp] at hq
      exact h.linked q s hq
  obtain ⟨cryptoCalls, sent, heq⟩ := onReadPacket_eq crypto w₁ p name buf
  rw [heq]
  exact ⟨⟨hsettled.inv.entries, hsettled.inv.pc, hsettled.inv.healthy, hsettled.inv.watched⟩,
    hsettled.linked⟩

/-! ### The timer -/

/-- The timer of a stream sends nothing. It removes the stream if that is not connected, and does
nothing to one that is. -/
theorem Settled.iceTimeoutCb (h : Settled ssl w) (p : Nat) :
    Settled ssl (w.iceTimeoutCb p) ∧ (w.iceTimeoutCb p).sent = w.sent := by
  unfold MediaWorker.iceTimeoutCb
  split
  · exact ⟨h, rfl⟩
  rename_i stream hheap
  split
  · exact ⟨h, rfl⟩
  have hstopped : Settled ssl
      { w with iceTimeout := Function.update w.iceTimeout p false } := by
    refine ⟨⟨h.inv.entries, h.inv.pc, h.inv.healthy, fun q hq => ?_⟩, h.linked⟩
    dsimp only
    by_cases hqp : q = p
    · rw [hqp, Function.update_self]
    · rw [Function.update_of_ne hqp]
      exact h.inv.watched q hq
  dsimp only
  split
  · rw [onStreamException_eq _ hheap]
    exact ⟨hstopped.removeStream _ _ _, rfl⟩
  · exact ⟨hstopped, rfl⟩

/-! ### Runs -/

/-- Every event leaves the worker settled: the signals that it raises are handled before it ends,
and no stream that has failed is left. -/
theorem settled_step {e : MediaWorker.Event} {w' : MediaWorker}
    (hstep : w.step crypto ssl ntop6 e = some w') (h : Settled ssl w) : Settled ssl w' := by
  cases e with
  | push uid name audio video logId certificate draw =>
      cases hstep
      exact h.push ntop6 uid name audio video logId certificate draw
  | pull uid name audio video logId certificate draw =>
      cases hstep
      exact h.pull ntop6 uid name audio video logId certificate draw
  | answer uid name sdp streamType => exact (h.setAnswer crypto hstep).1
  | stopPush uid name =>
      cases hstep
      exact h.removeStream .push uid name
  | stopPull uid name =>
      cases hstep
      exact h.removeStream .pull uid name
  | transport p name e =>
      cases hstep
      cases hheap : w.manager.heap p with
      | none =>
          unfold MediaWorker.transportEvent
          rw [hheap]
          exact h
      | some stream =>
          -- a packet may be forwarded, everything else only signals
          by_cases harrives : Arrives stream.pc.transportController name e
          · cases e with
            | readPacket buf ts => exact h.transportEvent_arrives crypto hheap harrives
            | iceChannel | dtlsEvent | setRemoteFingerprint => cases harrives
          · exact (h.transportEvent crypto hheap harrives).1
  | iceTimeout p =>
      cases hstep
      exact (h.iceTimeoutCb p).1

/-- A worker is settled after every run. -/
theorem settled_of_run {es : List MediaWorker.Event}
    (hrun : runPartial (MediaWorker.step crypto ssl ntop6) {} es = some w) : Settled ssl w :=
  invariant_of_runPartial (fun _ _ _ hstep h => settled_step ntop6 crypto hstep h) settled_empty
    hrun

end Xrtc.Proofs.Stream
