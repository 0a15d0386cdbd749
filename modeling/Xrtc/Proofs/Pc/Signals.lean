import Xrtc.Proofs.Pc.TransportActions

/-!
# `Xrtc.Proofs.Pc.Signals`: what a controller has signalled after an event

The record of a controller has an entry for every `signal_connection_state` and for every
packet that a `DtlsTransport` hands up. The file says what an event adds to it.

`Kept` is a property of the controller that survives each of the small things a method is
made of: an entry of another kind, a counter, a field of a transport, the state of the
agent, and `_update_state`. `Kept.onDtlsEvent`, `Kept.setupDtls` and the others go through
the methods once, so that a property of the record only has to be checked for these.

Three properties are checked here: the names of the transports (`step_names`), the state
that was signalled last (`step_lastState`), and the packets handed up (`step_noRead`).
-/

set_option autoImplicit false

namespace Xrtc.Proofs.Pc

open Xrtc.Lib
open Xrtc.Ice (IceTransportState)
open Xrtc.Pc
open Xrtc.Pc.TransportController
open Xrtc.Pc.DtlsTransport
open Xrtc.Pc.DtlsSrtpTransport

/-- An entry that is not a signal to the peer connection. -/
def IsSilent : Entry → Bool
  | .connectionState _ => false
  | .readPacket .. => false
  | _ => true

/-- What methods do to a controller leaves a property of it alone. A packet that is handed up
is not among these things. -/
structure Kept (P : TransportController → Prop) : Prop where
  push : ∀ c e, IsSilent e → P c → P (c.push e)
  tick : ∀ c, P c → P c.tick
  session : ∀ c session, P c → P { c with sessions := session }
  modify : ∀ c name f, P c → P (c.modify name f)
  iceState : ∀ c iceState, P c → P { c with iceState }
  updateState : ∀ c, P c → P c.updateState

namespace Kept

variable {P : TransportController → Prop} (hP : Kept P) (ssl : SslAdapter)
  {c : TransportController} (name : Bytes)
include hP

/-- A change of the fields of a DTLS transport. -/
theorem modifyDtls (f : DtlsTransport → DtlsTransport) (h : P c) : P (c.modifyDtls name f) :=
  hP.modify c name _ h

/-! ### The transports -/

/-- What a new DTLS state starts: the SRTP keys, or their end. -/
theorem onDtlsState (state : DtlsTransportState) (h : P c) :
    P (onDtlsState ssl c name state) := by
  unfold DtlsSrtpTransport.onDtlsState
  split
  · exact hP.modify _ _ _ h
  · unfold maybeSetupDtlsSrtp
    dsimp only
    split
    · exact h
    · unfold setupDtlsSrtp
      dsimp only
      split
      · exact hP.tick _ h
      · exact hP.modify _ _ _ (hP.tick _ h)

/-- Setting the state, and what that starts. -/
theorem setDtlsState (state : DtlsTransportState) (h : P c) :
    P (setDtlsState ssl c name state) := by
  unfold DtlsTransport.setDtlsState
  split
  · exact h
  · exact hP.onDtlsState ssl name state (hP.updateState _ (hP.modifyDtls name _ h))

/-- Setting whether the transport is writable. -/
theorem setWritableState (writable : Bool) (h : P c) : P (setWritableState c name writable) :=
  hP.modifyDtls name _ h

/-- Both together, as they are when a transport ends. -/
theorem ended (writable : Bool) (state : DtlsTransportState) (h : P c) :
    P (DtlsTransport.setDtlsState ssl (DtlsTransport.setWritableState c name writable) name state) :=
  hP.setDtlsState ssl name state (hP.setWritableState name writable h)

/-- An event of the adapter, in each of its branches: whether it was opened, how the reading
ended, and whether it was closed. -/
theorem onDtlsEvent (e : SslEvent) (h : P c) : P (onDtlsEvent ssl c name e) := by
  obtain ⟨opened, read, closed⟩ := e
  have hopened : P (if opened then DtlsTransport.setDtlsState ssl
      (DtlsTransport.setWritableState c name true) name .connected else c) := by
    split
    · exact hP.ended ssl name _ _ h
    · exact h
  unfold DtlsTransport.onDtlsEvent
  dsimp only
  generalize (if opened then DtlsTransport.setDtlsState ssl
    (DtlsTransport.setWritableState c name true) name .connected else c) = c₁ at hopened ⊢
  -- what the reads end in
  have hread : ∀ state, P ((DtlsTransport.setDtlsState ssl
      (DtlsTransport.setWritableState c₁ name false) name state).push (.closed name)) :=
    fun state => hP.push _ _ rfl (hP.ended ssl name _ state hopened)
  cases closed with
  | none =>
      dsimp only
      split
      · exact hread .closed
      · exact hread .failed
      · exact hopened
  | some error =>
      apply hP.ended
      split
      · exact hread .closed
      · exact hread .failed
      · exact hopened

/-- Events of the adapter, by induction on the list. -/
theorem onDtlsEvents (es : List SslEvent) (h : P c) : P (onDtlsEvents ssl c name es) := by
  unfold DtlsTransport.onDtlsEvents
  induction es generalizing c with
  | nil => exact h
  | cons e es ih => exact ih (hP.onDtlsEvent ssl name e h)

/-- A packet for DTLS, which raises events of the adapter. -/
theorem handleDtlsPacket (data : Bytes) (h : P c) : P (handleDtlsPacket ssl c name data).2 := by
  have hcalled := hP.push c (.handlePacket name data) rfl h
  unfold DtlsTransport.handleDtlsPacket
  dsimp only
  split
  swap
  · exact hcalled
  have hreceived := hP.tick _ (hP.push _ (.receivedPacket name data) rfl hcalled)
  unfold onReceivedPacket
  dsimp only
  split
  · exact hP.onDtlsEvents ssl name _ hreceived
  · exact hreceived

/-- The start of the adapter, with the hello that was cached. -/
theorem maybeStartDtls (h : P c) : P (maybeStartDtls ssl c name) := by
  unfold DtlsTransport.maybeStartDtls
  dsimp only
  split
  swap
  · exact h
  have hstarted := hP.onDtlsEvents ssl name (ssl.startSSL c.calls).1
    (hP.tick _ (hP.push c (.startSSL name) rfl h))
  split
  · exact hP.setDtlsState ssl name _ hstarted
  · have hconnecting := hP.setDtlsState ssl name .connecting hstarted
    split
    swap
    · exact hconnecting
    -- the `ClientHello` that has waited
    apply hP.modifyDtls
    split
    · exact hP.handleDtlsPacket ssl name _ hconnecting
    · exact hP.setDtlsState ssl name _ (hP.handleDtlsPacket ssl name _ hconnecting)

/-- A new adapter, and its start. -/
theorem setupDtls (h : P c) : P (setupDtls ssl c name).2 := by
  have hcreated : P (({ c.tick with sessions := c.sessions + 1 } :
      TransportController).modifyDtls name fun d => { d with dtls := some c.sessions }) :=
    hP.modifyDtls name _ (hP.session _ _ (hP.tick _ h))
  unfold DtlsTransport.setupDtls
  dsimp only
  split
  · dsimp only
    exact hP.modifyDtls name _ (hP.tick _ h)
  · split
    · exact hP.tick _ hcreated
    · split
      · exact hP.tick _ (hP.tick _ hcreated)
      · exact hP.maybeStartDtls ssl name (hP.tick _ (hP.tick _ hcreated))

/-- The channel becomes writable, or not any more. -/
theorem onWritableState (h : P c) : P (onWritableState ssl c name) := by
  unfold DtlsTransport.onWritableState
  dsimp only
  split
  · exact hP.setWritableState name _ h
  · split
    · exact hP.maybeStartDtls ssl name h
    · exact hP.setWritableState name _ h
    · exact h

/-- The channel receives, or not any more. -/
theorem onReceivingState (h : P c) : P (onReceivingState c name) := by
  unfold DtlsTransport.onReceivingState DtlsTransport.setReceiving
  split
  · exact h
  · exact hP.updateState _ (hP.updateState _ (hP.modifyDtls name _ h))

/-- A fingerprint of the peer. All the ways it can go are made of the calls above. -/
theorem setRemoteFingerprint (digestAlg digest : Bytes) (h : P c) :
    P (setRemoteFingerprint ssl c name digestAlg digest).2 := by
  have hsetup : ∀ c' : TransportController, P c' →
      P (if (!(DtlsTransport.setupDtls ssl c' name).1) = true then
          (false, DtlsTransport.setDtlsState ssl (DtlsTransport.setupDtls ssl c' name).2 name .failed)
        else (true, (DtlsTransport.setupDtls ssl c' name).2)).2 := by
    intro c' h'
    have hdone := hP.setupDtls ssl name h'
    split
    · exact hP.setDtlsState ssl name _ hdone
    · exact hdone
  unfold DtlsTransport.setRemoteFingerprint
  dsimp only
  split
  · exact h
  · split
    · dsimp only
      exact hP.modifyDtls name _ h
    · split
      · exact h
      · have hdigest := hP.modifyDtls name
          (fun d => { d with remoteFingerprintValue := digest, remoteFingerprintAlg := digestAlg }) h
        split
        · split
          · exact hP.setDtlsState ssl name _ (hP.tick _ hdigest)
          · exact hP.tick _ hdigest
        · -- an old session is dropped before a new one is made
          apply hsetup
          split
          · exact hP.setWritableState name _
              (hP.setDtlsState ssl name _ (hP.modifyDtls name _ hdigest))
          · exact hdigest

/-! ### The agent and the channels -/

/-- The state of the agent reaches the controller, once for each transport. -/
theorem signalIceState (h : P c) : P (IceAgent.signalIceState c) := by
  unfold IceAgent.signalIceState
  generalize c.names.length = n
  induction n generalizing c with
  | zero => exact h
  | succ n ih =>
      rw [Function.iterate_succ_apply]
      exact ih (hP.updateState _ h)

/-- `_update_state` of the agent. -/
theorem agentUpdateState (h : P c) : P (IceAgent.updateState c) := by
  unfold IceAgent.updateState
  dsimp only
  split
  swap
  · exact h
  apply hP.signalIceState
  apply hP.iceState
  split
  · exact hP.signalIceState h
  · exact h

/-- `_update_state` of a channel, with all the signals that it raises. -/
theorem channelUpdateState (writable receiving : Bool) (state : IceTransportState) (h : P c) :
    P (IceChannel.updateState ssl c name writable receiving state) := by
  have hwritable : P (IceChannel.setWritable ssl c name writable) := by
    unfold IceChannel.setWritable
    split
    · exact h
    · exact hP.onWritableState ssl name (hP.agentUpdateState (hP.modify _ _ _ h))
  have hreceiving : P (IceChannel.setReceiving (IceChannel.setWritable ssl c name writable) name
      receiving) := by
    unfold IceChannel.setReceiving
    split
    · exact hwritable
    · exact hP.onReceivingState name (hP.agentUpdateState (hP.modify _ _ _ hwritable))
  unfold IceChannel.updateState IceChannel.setState
  split
  · exact hP.agentUpdateState (hP.modify _ _ _ hreceiving)
  · exact hreceiving

end Kept

/-! ### A packet that is handed up -/

/-- A `DtlsTransport` hands a packet up to SRTP. -/
def HandsUp (d : DtlsTransport) (buf : Bytes) : Prop :=
  d.dtlsState = .connected ∧ isDtlsPacket buf = false ∧ isRtpPacket buf = true

variable (ssl : SslAdapter) {c : TransportController} {name : Bytes}

/-- A packet that goes up to SRTP is signalled, and nothing else happens. -/
theorem onReadPacket_handsUp {buf : Bytes} (h : HandsUp (c.transports name).dtls buf) (ts : Int) :
    onReadPacket ssl c name buf ts = c.push (.readPacket name buf ts) := by
  obtain ⟨hstate, hdtls, hrtp⟩ := h
  unfold onReadPacket
  simp [hstate, hdtls, hrtp]

/-- A packet that is not handed up is worked on like any other event. -/
theorem Kept.onReadPacket {P : TransportController → Prop} (hP : Kept P) {buf : Bytes} {ts : Int}
    (hdown : ¬ HandsUp (c.transports name).dtls buf) (h : P c) :
    P (DtlsTransport.onReadPacket ssl c name buf ts) := by
  have hreceived : P (if isDtlsPacket buf then (DtlsTransport.handleDtlsPacket ssl c name buf).2
      else if (c.transports name).dtls.dtlsState ≠ .connected then c
      else if !isRtpPacket buf then c
      else c.push (.readPacket name buf ts)) := by
    split
    · exact hP.handleDtlsPacket ssl name buf h
    · split
      · exact h
      · split
        · exact h
        · -- what is left is a packet for SRTP
          rename_i hdtls hstate hrtp
          exact absurd ⟨not_not.mp hstate, by simpa using hdtls, by simpa using hrtp⟩ hdown
  unfold DtlsTransport.onReadPacket
  dsimp only
  split
  · split
    · split
      · exact hP.setupDtls ssl name (hP.modifyDtls name _ h)
      · exact hP.modifyDtls name _ h
    · exact h
  · exact hreceived
  · exact hreceived
  · exact h

/-- The event is a packet for SRTP at the transport of a name. -/
def Arrives (c : TransportController) (name : Bytes) : TransportController.Event → Prop
  | .readPacket buf _ => name ∈ c.names ∧ HandsUp (c.transports name).dtls buf
  | _ => False

/-- Any other event is made of small steps only. -/
theorem Kept.step {P : TransportController → Prop} (hP : Kept P) {e : TransportController.Event}
    (harrives : ¬ Arrives c name e) (h : P c) : P (TransportController.step ssl c (name, e)) := by
  unfold TransportController.step
  split
  swap
  · exact h
  rename_i hname
  cases e with
  | iceChannel writable receiving state => exact hP.channelUpdateState ssl name _ _ _ h
  | readPacket buf ts => exact hP.onReadPacket ssl (fun hup => harrives ⟨hname, hup⟩) h
  | dtlsEvent e =>
      show P (if (c.transports name).dtls.dtls.isSome then
        DtlsTransport.onDtlsEvent ssl c name e else c)
      split
      · exact hP.onDtlsEvent ssl name e h
      · exact h
  | setRemoteFingerprint digestAlg digest =>
      exact hP.setRemoteFingerprint ssl name digestAlg digest h

/-- So an event with such a packet adds exactly this signal to the record. -/
theorem step_arrives {buf : Bytes} {ts : Int} (h : Arrives c name (.readPacket buf ts)) :
    TransportController.step ssl c (name, .readPacket buf ts)
      = c.push (.readPacket name buf ts) := by
  unfold TransportController.step
  rw [if_pos h.1]
  exact onReadPacket_handsUp ssl h.2 ts

/-! ### Three properties of the record -/

/-- The state of the last signal in a record, whose latest entry is the first. -/
def lastState (initial : PeerConnectionState) : List Entry → PeerConnectionState
  | [] => initial
  | .connectionState state :: _ => state
  | _ :: log => lastState initial log

/-- An entry is about a packet that was handed up. -/
def IsRead : Entry → Bool
  | .readPacket .. => true
  | _ => false

/-- The controller has signalled its state. -/
theorem kept_lastState (initial : PeerConnectionState) :
    Kept fun c => lastState initial c.log = c.pcState where
  push c e he h := by
    cases e with
    | connectionState | readPacket => cases he
    | startSSL | handlePacket | receivedPacket | closed => exact h
  tick _ h := h
  session _ _ h := h
  modify _ _ _ h := h
  iceState _ _ h := h
  updateState c h := by
    unfold TransportController.updateState
    dsimp only
    split
    · rfl
    · exact h

/-- The names of the transports are kept by all of these. -/
theorem kept_names (names : List Bytes) : Kept fun c => c.names = names where
  push _ _ _ h := h
  tick _ h := h
  session _ _ h := h
  modify _ _ _ h := h
  iceState _ _ h := h
  updateState c h := by rw [updateState_names, h]

/-- No packet has been handed up. -/
theorem kept_noRead : Kept fun c => ∀ e ∈ c.log, IsRead e = false where
  push c e he h := by
    intro e' he'
    rcases List.mem_cons.mp he' with rfl | hmem
    · cases e' with
      | readPacket => cases he
      | startSSL | handlePacket | receivedPacket | closed | connectionState => rfl
    · exact h e' hmem
  tick _ h := h
  session _ _ h := h
  modify _ _ _ h := h
  iceState _ _ h := h
  updateState c h := by
    unfold TransportController.updateState
    dsimp only
    split
    · intro e he
      rcases List.mem_cons.mp he with rfl | hmem
      · rfl
      · exact h e hmem
    · exact h

/-- The transports of a controller stay the same ones. -/
theorem step_names (c : TransportController) (x : Bytes × TransportController.Event) :
    (TransportController.step ssl c x).names = c.names := by
  obtain ⟨name, e⟩ := x
  by_cases harrives : Arrives c name e
  · cases e with
    | readPacket buf ts => rw [step_arrives ssl harrives, push_names]
    | iceChannel | dtlsEvent | setRemoteFingerprint => cases harrives
  · exact (kept_names c.names).step ssl harrives rfl

/-- What an event adds to an empty record ends in the state that the controller has. -/
theorem step_lastState (hlog : c.log = []) (x : Bytes × TransportController.Event) :
    lastState c.pcState (TransportController.step ssl c x).log
      = (TransportController.step ssl c x).pcState := by
  obtain ⟨name, e⟩ := x
  by_cases harrives : Arrives c name e
  · cases e with
    | readPacket buf ts =>
        rw [step_arrives ssl harrives]
        show lastState c.pcState c.log = c.pcState
        rw [hlog]
        rfl
    | iceChannel | dtlsEvent | setRemoteFingerprint => cases harrives
  · refine (kept_lastState c.pcState).step ssl harrives ?_
    rw [hlog]
    rfl

/-- An event that is not a packet for SRTP hands nothing up. -/
theorem step_noRead (hlog : c.log = []) {e : TransportController.Event}
    (harrives : ¬ Arrives c name e) :
    ∀ entry ∈ (TransportController.step ssl c (name, e)).log, IsRead entry = false :=
  kept_noRead.step ssl harrives (by simp [hlog])

/-! ### A remote description -/

/-- What survives the small steps survives an answer. -/
theorem Kept.setRemoteDescription {P : TransportController → Prop} (hP : Kept P)
    {c' : TransportController} {desc : SessionDescription} (h : P c)
    (hdesc : c.setRemoteDescription ssl desc = some c') : P c' := by
  refine invariant_of_runPartial (fun c content c' hnext h => ?_) h hdesc
  unfold TransportController.setRemoteTransport at hnext
  split at hnext
  · cases hnext
    exact h
  · rename_i td _
    have hparams : P (c.setRemoteIceParams content.mid ⟨td.iceUfrag, td.icePwd⟩) := by
      unfold TransportController.setRemoteIceParams
      split
      · exact hP.modify _ _ _ h
      · exact h
    dsimp only at hnext
    split at hnext
    · split at hnext
      · cases hnext
      · cases hnext
        exact hP.setRemoteFingerprint ssl _ _ _ hparams
    · cases hnext
      exact hparams

end Xrtc.Proofs.Pc
