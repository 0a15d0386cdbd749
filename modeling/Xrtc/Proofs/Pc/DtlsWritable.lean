import Xrtc.Proofs.Pc.DtlsStart

/-!
# `Xrtc.Proofs.Pc.DtlsWritable`: when a DTLS transport is writable

`_writable` should say that DTLS is connected on a writable channel (`WritableSound`). Two
sources write it. `_on_writable_state` copies the flag of the channel as long as DTLS is
connected, and `_on_dtls_event` sets it when the handshake is complete, without a look at the
channel. So a handshake that completes while the channel is not writable leaves the flag
wrong. The other way to a wrong flag is a first fingerprint that the session does not accept:
`set_remote_fingerprint` moves a connected transport to the state failed and leaves the flag
alone.

`Breaks` are these steps. `always_writableSound_iff` proves that there are no others.

What an event of the adapter does to the flag and to the state is computed by `afterEvent`,
and `leaves` is all that is needed of it: whether a list of events leaves the transport open,
closed or as it was. The events of the adapter are events of the run, or they are raised by a
packet. `StartSSL` raises none before it returns.
-/

set_option autoImplicit false

namespace Xrtc.Proofs.Pc

open Xrtc.Lib
open Xrtc.Pc
open Xrtc.Pc.TransportController
open Xrtc.Pc.DtlsTransport

/-- With DTLS, a transport is writable if DTLS is connected and the channel is writable. -/
def WritableSound (t : Transport) : Prop :=
  t.dtls.dtlsActive = true →
    (t.dtls.writable = true ↔ t.dtls.dtlsState = .connected ∧ t.channel.writable = true)

/-! ### Steps that break it -/

/-- Whether an event leaves the transport open (`some true`), closed or as it was. -/
def leavesEvent (e : SslEvent) : Option Bool :=
  if e.read = some .eos ∨ e.read = some .error ∨ e.closed.isSome then some false
  else if e.opened then some true
  else none

/-- The same for a list of events. The last one that says something counts. -/
def leaves : List SslEvent → Option Bool
  | [] => none
  | e :: es => (leaves es).or (leavesEvent e)

/-- The events that make the flag of a transport wrong, when `n` is the number of the next call
of the adapter: events of the adapter that leave the transport open while the channel is not
writable, and a first fingerprint that is not accepted while the transport is writable. -/
def BreaksAt (ssl : SslAdapter) (n : Nat) (t : Transport) : Event → Prop
  | .iceChannel _ _ _ => False
  | .readPacket buf _ =>
      t.channel.writable = false ∧
        (t.dtls.dtlsState = .connecting ∨ t.dtls.dtlsState = .connected) ∧
        isDtlsPacket buf ∧ completeRecords buf ∧ leaves (ssl.onRead n) = some true
  | .dtlsEvent e => t.channel.writable = false ∧ leavesEvent e = some true
  | .setRemoteFingerprint digestAlg digest =>
      t.channel.writable = true ∧ t.dtls.dtlsState = .connected ∧
        t.dtls.remoteFingerprintValue = [] ∧ digest ≠ [] ∧ digestAlg ≠ [] ∧
        ssl.setPeerCertificateDigest n ≠ .none

/-- Such an event at a transport that exists, does DTLS and has a session. -/
def Breaks (ssl : SslAdapter) (c : TransportController) (x : Bytes × Event) : Prop :=
  x.1 ∈ c.names ∧ (c.transports x.1).dtls.dtlsActive = true ∧
    (c.transports x.1).dtls.dtls.isSome ∧ BreaksAt ssl c.calls (c.transports x.1) x.2

/-! ### Events of the adapter -/

/-- What an event of the adapter does to the transport. -/
def afterEvent (d : DtlsTransport) (e : SslEvent) : DtlsTransport :=
  let d := if e.opened then { d with writable := true, dtlsState := .connected } else d
  let d :=
    if e.read = some .eos then { d with writable := false, dtlsState := .closed }
    else if e.read = some .error then { d with writable := false, dtlsState := .failed }
    else d
  match e.closed with
  | none => d
  | some error =>
      { d with writable := false, dtlsState := if error = 0 then .closed else .failed }

/-- What a list of events leaves of the flag and the state. -/
inductive Left (d : DtlsTransport) : Option Bool → DtlsTransport → Prop where
  | same : Left d none d
  | opened : Left d (some true) { d with writable := true, dtlsState := .connected }
  | closed (state : DtlsTransportState) (hstate : state ≠ .connected) :
      Left d (some false) { d with writable := false, dtlsState := state }

/-- One event leaves the flag as `leavesEvent` says, or as it was. -/
theorem left_afterEvent (d : DtlsTransport) (e : SslEvent) :
    Left d (leavesEvent e) (afterEvent d e) := by
  obtain ⟨opened, read, closed⟩ := e
  cases closed with
  | some error =>
      have hstate : (if error = 0 then DtlsTransportState.closed else .failed) ≠ .connected := by
        split <;> simp
      cases opened <;> rcases read with _ | (_ | _ | _) <;> exact .closed _ hstate
  | none =>
      rcases read with _ | (_ | _ | _)
      · cases opened
        · exact .same
        · exact .opened
      · cases opened
        · exact .same
        · exact .opened
      · cases opened <;> exact .closed .closed (by simp)
      · cases opened <;> exact .closed .failed (by simp)

/-- Of two changes of the flag the second one is what is left, if it is one. -/
theorem Left.trans {d d' d'' : DtlsTransport} {first second : Option Bool} (h : Left d first d')
    (h' : Left d' second d'') : Left d (second.or first) d'' := by
  cases h' with
  | same => exact h
  | opened => cases h <;> exact .opened
  | closed state hstate => cases h <;> exact .closed state hstate

/-- So it is with any number of events, by induction on the list. -/
theorem left_afterEvents (es : List SslEvent) :
    ∀ d : DtlsTransport, Left d (leaves es) (es.foldl afterEvent d) := by
  induction es with
  | nil => exact fun _ => .same
  | cons e es ih => exact fun d => (left_afterEvent d e).trans (ih _)

section

variable (ssl : SslAdapter) (c : TransportController) (name : Bytes)

/-- The flag and the state are what they were set to, and the rest of the DTLS transport is as
before. -/
theorem setWritable_dtls (writable : Bool) (state : DtlsTransportState) :
    ((DtlsTransport.setDtlsState ssl (setWritableState c name writable) name state).transports
      name).dtls
      = { (c.transports name).dtls with writable, dtlsState := state } := by
  rw [setDtlsState_dtls]
  unfold setWritableState
  rw [modifyDtls_dtls]

/-- What an event of the adapter does to the DTLS transport, with the signals left out. -/
theorem onDtlsEvent_dtls (e : SslEvent) :
    ((onDtlsEvent ssl c name e).transports name).dtls = afterEvent (c.transports name).dtls e := by
  obtain ⟨opened, read, closed⟩ := e
  unfold onDtlsEvent afterEvent
  dsimp only
  -- the three parts of an event come one after the other: opened, read, closed
  have hopened : ((if opened then
      DtlsTransport.setDtlsState ssl (setWritableState c name true) name .connected else c).transports
        name).dtls
      = if opened then { (c.transports name).dtls with writable := true, dtlsState := .connected }
        else (c.transports name).dtls := by
    split
    · exact setWritable_dtls ssl c name true .connected
    · rfl
  generalize (if opened then DtlsTransport.setDtlsState ssl (setWritableState c name true) name
    .connected else c) = c₁ at hopened ⊢
  rw [← hopened]
  cases closed with
  | none =>
      rcases read with _ | (_ | _ | _)
      · rfl
      · rfl
      · exact setWritable_dtls ssl c₁ name false .closed
      · exact setWritable_dtls ssl c₁ name false .failed
  | some error =>
      rw [setWritable_dtls]
      rcases read with _ | (_ | _ | _)
      · rfl
      · rfl
      · dsimp only
        rw [push_transports, setWritable_dtls]
        rfl
      · dsimp only
        rw [push_transports, setWritable_dtls]
        rfl

/-- The same for several events. -/
theorem onDtlsEvents_dtls (es : List SslEvent) :
    ∀ c : TransportController, ((onDtlsEvents ssl c name es).transports name).dtls
      = es.foldl afterEvent (c.transports name).dtls := by
  induction es with
  | nil => exact fun _ => rfl
  | cons e es ih =>
      intro c
      rw [List.foldl_cons, ← onDtlsEvent_dtls ssl]
      exact ih _

end

/-! ### The invariant -/

/-- The flag is right for a channel that is writable or not, and a connected transport has a
session. -/
structure FlagRight (channelWritable : Bool) (d : DtlsTransport) : Prop where
  sound : d.dtlsActive = true →
    (d.writable = true ↔ d.dtlsState = .connected ∧ channelWritable = true)
  session : d.dtlsState = .connected → d.dtls.isSome

/-- The flag is off, if it counts. -/
def FlagOff (d : DtlsTransport) : Prop := d.dtlsActive = true → d.writable = false

section

variable {channelWritable : Bool} {d d' : DtlsTransport}

/-- A flag that is right is off where DTLS is not connected or the channel is not writable. -/
theorem FlagRight.off (h : FlagRight channelWritable d)
    (hoff : ¬ (d.dtlsState = .connected ∧ channelWritable = true)) : FlagOff d := by
  intro hactive
  cases hwritable : d.writable with
  | false => rfl
  | true => exact absurd ((h.sound hactive).mp hwritable) hoff

/-- The flag is off, and DTLS is not connected. -/
theorem FlagOff.right (h : FlagOff d) (hstate : d.dtlsState ≠ .connected) :
    FlagRight channelWritable d := by
  refine ⟨fun hactive => ?_, fun hconnected => absurd hconnected hstate⟩
  rw [h hactive]
  simp [hstate]

/-- Events of the adapter. -/
theorem FlagRight.left (h : FlagRight channelWritable d) (hsome : d.dtls.isSome)
    {outcome : Option Bool} (hleft : Left d outcome d')
    (hopen : d.dtlsActive = true → outcome = some true → channelWritable = true) :
    FlagRight channelWritable d' := by
  cases hleft with
  | same => exact h
  | opened => exact ⟨fun hactive => by simp [hopen hactive rfl], fun _ => hsome⟩
  | closed state hstate => exact FlagOff.right (fun _ => rfl) hstate

/-- Events of the adapter that make the flag wrong. -/
theorem Left.wrong {t : Transport} (hleft : Left d (some true) t.dtls) (hactive : d.dtlsActive = true)
    (hchannel : t.channel.writable = false) : ¬ WritableSound t := by
  intro h
  generalize hdtls : t.dtls = d' at hleft
  cases hleft
  have hboth := (h (by rw [hdtls]; exact hactive)).mp (by rw [hdtls])
  rw [hchannel] at hboth
  cases hboth.2

end

/-! ### The methods -/

section

variable {ssl : SslAdapter} {c c' : TransportController} {name : Bytes} {channelWritable : Bool}

/-- A packet with whole records changes the DTLS transport by the events of its adapter. Any other
packet does not change it. -/
theorem handleDtlsPacket_dtls (data : Bytes) :
    ((handleDtlsPacket ssl c name data).2.transports name).dtls
      = if completeRecords data ∧ (c.transports name).dtls.dtls.isSome then
          (ssl.onRead c.calls).foldl afterEvent (c.transports name).dtls
        else (c.transports name).dtls := by
  unfold handleDtlsPacket
  dsimp only
  by_cases hcomplete : completeRecords data
  · rw [if_pos hcomplete]
    unfold onReceivedPacket
    dsimp only
    by_cases hsome : (c.transports name).dtls.dtls.isSome
    · rw [if_pos (by simpa using hsome), if_pos ⟨hcomplete, hsome⟩, onDtlsEvents_dtls]
      rfl
    · rw [if_neg (by simpa using hsome), if_neg fun h => hsome h.2]
      rfl
  · rw [if_neg hcomplete, if_neg fun h => hcomplete h.1]
    rfl

/-- The call succeeds for packets with whole records. -/
theorem handleDtlsPacket_fst (data : Bytes) :
    (handleDtlsPacket ssl c name data).1 = completeRecords data := by
  unfold handleDtlsPacket
  dsimp only
  cases completeRecords data <;> rfl

/-- A packet that is given to the adapter. -/
theorem FlagRight.handleDtlsPacket (ssl : SslAdapter)
    (h : FlagRight channelWritable (c.transports name).dtls) (data : Bytes)
    (hopen : completeRecords data → (c.transports name).dtls.dtls.isSome →
      (c.transports name).dtls.dtlsActive = true →
      leaves (ssl.onRead c.calls) = some true → channelWritable = true) :
    FlagRight channelWritable ((handleDtlsPacket ssl c name data).2.transports name).dtls := by
  rw [handleDtlsPacket_dtls]
  split
  · rename_i hboth
    exact h.left hboth.2 (left_afterEvents _ _) (hopen hboth.1 hboth.2)
  · exact h

variable (hstart : ∀ n, (ssl.startSSL n).1 = [])

include hstart

/-- `StartSSL` and the `ClientHello` that has waited. The handshake may complete in these calls,
and then the flag is set while the channel is writable, which is right. -/
theorem flagRight_maybeStartDtls
    (h : FlagRight (c.transports name).channel.writable (c.transports name).dtls)
    (hoff : FlagOff (c.transports name).dtls) :
    FlagRight (c.transports name).channel.writable
      ((maybeStartDtls ssl c name).transports name).dtls := by
  unfold maybeStartDtls
  dsimp only
  split
  swap
  · exact h
  rename_i hready
  have hwritable : (c.transports name).channel.writable = true := (Bool.and_eq_true_iff.mp hready).2
  have hmoved : ∀ state, state ≠ .connected → FlagRight (c.transports name).channel.writable
      ((DtlsTransport.setDtlsState ssl (onDtlsEvents ssl (c.push (.startSSL name)).tick name
        (ssl.startSSL c.calls).1) name state).transports name).dtls := by
    intro state hstate
    rw [setDtlsState_dtls, onDtlsEvents_dtls, hstart]
    exact FlagOff.right hoff hstate
  split
  · exact hmoved .failed (by simp)
  have hconnecting := hmoved .connecting (by simp)
  split
  swap
  · exact hconnecting
  generalize hc' : DtlsTransport.setDtlsState ssl (onDtlsEvents ssl (c.push (.startSSL name)).tick
    name (ssl.startSSL c.calls).1) name .connecting = c' at hconnecting ⊢
  have hstate : (c'.transports name).dtls.dtlsState = .connecting := by rw [← hc', setDtlsState_dtls]
  -- the channel is writable, so the packet can only leave the flag right
  have hhandled := hconnecting.handleDtlsPacket ssl (c'.transports name).dtls.cachedClientHello
    fun _ _ _ _ => hwritable
  rw [modifyDtls_dtls, handleDtlsPacket_fst]
  split
  · exact ⟨hhandled.sound, hhandled.session⟩
  · rename_i hincomplete
    have hoff' : FlagOff (c'.transports name).dtls := by
      refine hconnecting.off ?_
      simp [hstate]
    rw [setDtlsState_dtls, handleDtlsPacket_dtls, if_neg fun h => hincomplete h.1]
    exact FlagOff.right hoff' (by simp)

/-- A new session starts with the flag off, and what it takes in at once may set it. If the setup
fails the flag stays off. -/
theorem flagRight_setupDtls (name : Bytes) (hoff : FlagOff (c.transports name).dtls)
    (hstate : (c.transports name).dtls.dtlsState ≠ .connected) :
    FlagRight (c.transports name).channel.writable
        ((setupDtls ssl c name).2.transports name).dtls ∧
      ((setupDtls ssl c name).1 = false →
        FlagOff ((setupDtls ssl c name).2.transports name).dtls) := by
  have hcreated : ∀ calls sessions (session : Option Session),
      (((({ c with calls, sessions } : TransportController).modifyDtls name
        fun d => { d with dtls := session }).transports name).dtls)
        = { (c.transports name).dtls with dtls := session } :=
    fun _ _ _ => modifyDtls_dtls _ name _
  have hchannel : ∀ calls sessions (session : Option Session),
      (((({ c with calls, sessions } : TransportController).modifyDtls name
        fun d => { d with dtls := session }).transports name).channel)
        = (c.transports name).channel :=
    fun _ _ _ => modifyDtls_channel _ name _ name
  -- the flag and the state are those of before
  have hoff' : ∀ calls sessions (session : Option Session), FlagOff
      (((({ c with calls, sessions } : TransportController).modifyDtls name
        fun d => { d with dtls := session }).transports name).dtls) := by
    intro calls sessions session
    rw [hcreated]
    exact hoff
  have hright : ∀ calls sessions (session : Option Session),
      FlagRight (c.transports name).channel.writable
        (((({ c with calls, sessions } : TransportController).modifyDtls name
          fun d => { d with dtls := session }).transports name).dtls) := by
    intro calls sessions session
    refine FlagOff.right (hoff' calls sessions session) ?_
    rw [hcreated]
    exact hstate
  unfold setupDtls
  dsimp only
  split
  · exact ⟨hright (c.calls + 1) c.sessions none, fun _ => hoff' (c.calls + 1) c.sessions none⟩
  · split
    · exact ⟨hright (c.calls + 1) (c.sessions + 1) _, fun _ => hoff' (c.calls + 1) (c.sessions + 1) _⟩
    · split
      · exact ⟨hright (c.calls + 1) (c.sessions + 1) _,
          fun _ => hoff' (c.calls + 1) (c.sessions + 1) _⟩
      · refine ⟨?_, nofun⟩
        have hmaybe := flagRight_maybeStartDtls hstart
          (c := ({ c with calls := c.calls + 1 + 1 + 1, sessions := c.sessions + 1 } :
            TransportController).modifyDtls name fun d => { d with dtls := some c.sessions })
          (hchannel _ _ _ ▸ hright (c.calls + 1 + 1 + 1) (c.sessions + 1) (some c.sessions))
          (hoff' _ _ _)
        rw [hchannel] at hmaybe
        exact hmaybe

/-- A packet for the adapter may complete the handshake, which sets the flag. That is right on a
writable channel, and `hopen` says that it does not happen on another one. -/
theorem flagRight_onReadPacket
    (h : FlagRight (c.transports name).channel.writable (c.transports name).dtls) (buf : Bytes)
    (ts : Int)
    (hopen : (c.transports name).dtls.dtlsState = .connecting ∨
        (c.transports name).dtls.dtlsState = .connected →
      isDtlsPacket buf → completeRecords buf → (c.transports name).dtls.dtls.isSome →
      (c.transports name).dtls.dtlsActive = true →
      leaves (ssl.onRead c.calls) = some true → (c.transports name).channel.writable = true) :
    FlagRight (c.transports name).channel.writable
      ((onReadPacket ssl c name buf ts).transports name).dtls := by
  -- connecting and connected transports treat a packet alike, as long as it is DTLS
  have hreceived : (c.transports name).dtls.dtlsState = .connecting ∨
      (c.transports name).dtls.dtlsState = .connected →
      FlagRight (c.transports name).channel.writable
        (((if isDtlsPacket buf then (handleDtlsPacket ssl c name buf).2
          else if (c.transports name).dtls.dtlsState ≠ .connected then c
          else if !isRtpPacket buf then c
          else c.push (.readPacket name buf ts)).transports name).dtls) := by
    intro hstate
    split
    · rename_i hpacket
      exact h.handleDtlsPacket ssl buf (hopen hstate hpacket)
    · split
      · exact h
      · split <;> exact h
  unfold onReadPacket
  dsimp only
  split
  · rename_i hnew
    -- a new transport keeps a client hello, and may start with it
    have hoff : FlagOff (c.transports name).dtls := h.off (by simp [hnew])
    have hcached := modifyDtls_dtls c name fun d => { d with cachedClientHello := buf }
    have hchannel := modifyDtls_channel c name (fun d => { d with cachedClientHello := buf }) name
    split
    swap
    · exact h
    split
    · have hsetup := flagRight_setupDtls hstart
        (c := c.modifyDtls name fun d => { d with cachedClientHello := buf }) name
        (by rw [hcached]; exact hoff) (by rw [hcached]; simp [hnew])
      rw [hchannel] at hsetup
      exact hsetup.1
    · rw [hcached]
      exact ⟨h.sound, h.session⟩
  · rename_i hstate
    exact hreceived (.inl hstate)
  · rename_i hstate
    exact hreceived (.inr hstate)
  · exact h

/-! ### The channel -/

omit hstart in
/-- The state of the channel in the signal. -/
theorem flagRight_setWritableState
    (h : FlagRight channelWritable (c.transports name).dtls)
    (hstate : (c.transports name).dtls.dtlsActive = true →
      (c.transports name).dtls.dtlsState = .connected) (writable : Bool) :
    FlagRight writable ((setWritableState c name writable).transports name).dtls := by
  unfold setWritableState
  rw [modifyDtls_dtls]
  refine ⟨fun hactive => ?_, h.session⟩
  simp [hstate hactive]

/-- The flag stays right when the channel becomes writable, or is not any more. Each state of DTLS
has its own branch here. -/
theorem flagRight_setWritable
    (h : FlagRight (c.transports name).channel.writable (c.transports name).dtls)
    (writable : Bool) :
    FlagRight ((IceChannel.setWritable ssl c name writable).transports name).channel.writable
      ((IceChannel.setWritable ssl c name writable).transports name).dtls := by
  unfold IceChannel.setWritable
  split
  · exact h
  dsimp only
  generalize hc' : IceAgent.updateState (c.modify name fun t =>
    { t with channel := { t.channel with
        hasBeenConnection := if writable = true then true else t.channel.hasBeenConnection
        writable } }) = c'
  have hdtls : (c'.transports name).dtls = (c.transports name).dtls := by
    rw [← hc', agentUpdateState_transports, modify_self]
  have hchannel : ∀ other, ((onWritableState ssl c' name).transports other).channel
      = (c'.transports other).channel :=
    (actions_onWritableState ssl).channel
  rw [hchannel]
  have hright := hdtls ▸ h
  unfold onWritableState
  dsimp only
  split
  · -- without DTLS the flag follows the channel
    rename_i hinactive
    exact flagRight_setWritableState hright (fun hactive => by simp [hactive] at hinactive) _
  · split
    · -- a new transport may start now, which does not connect it
      rename_i hnew
      have hoff : FlagOff (c'.transports name).dtls := hright.off (by simp [hnew])
      exact flagRight_maybeStartDtls hstart (FlagOff.right hoff (by simp [hnew])) hoff
    · -- a connected transport is as writable as its channel
      rename_i hconnected
      exact flagRight_setWritableState hright (fun _ => hconnected) _
    · rename_i hnotNew hnotConnected
      exact FlagOff.right (hright.off fun hand => hnotConnected hand.1) hnotConnected

omit hstart in
/-- Whether the channel receives has no part in it. -/
theorem setReceiving_right
    (h : FlagRight (c.transports name).channel.writable (c.transports name).dtls)
    (receiving : Bool) :
    FlagRight ((IceChannel.setReceiving c name receiving).transports name).channel.writable
      ((IceChannel.setReceiving c name receiving).transports name).dtls := by
  unfold IceChannel.setReceiving
  split
  · exact h
  dsimp only
  unfold onReceivingState DtlsTransport.setReceiving
  split
  · rw [agentUpdateState_transports, modify_self]
    exact h
  · rw [updateState_transports, updateState_transports, modifyDtls_dtls, modifyDtls_channel,
      agentUpdateState_transports, modify_self]
    exact ⟨h.sound, h.session⟩

omit hstart in
/-- Neither has the state of the channel. -/
theorem setState_right
    (h : FlagRight (c.transports name).channel.writable (c.transports name).dtls)
    (state : Xrtc.Ice.IceTransportState) :
    FlagRight ((IceChannel.setState c name state).transports name).channel.writable
      ((IceChannel.setState c name state).transports name).dtls := by
  unfold IceChannel.setState
  split
  · rw [agentUpdateState_transports, modify_self]
    exact h
  · exact h

/-! ### The fingerprint -/

/-- A new session of a transport whose flag is off. One that cannot be made fails. -/
theorem flagRight_newSession {c : TransportController} {name : Bytes} {writable : Bool}
    (hwritable : (c.transports name).channel.writable = writable)
    (hoff : FlagOff (c.transports name).dtls)
    (hstate : (c.transports name).dtls.dtlsState ≠ .connected) :
    FlagRight writable
      (((if (!(setupDtls ssl c name).1) = true
        then (false, DtlsTransport.setDtlsState ssl (setupDtls ssl c name).2 name .failed)
        else (true, (setupDtls ssl c name).2)).2.transports name).dtls) := by
  obtain ⟨hright, hfailed⟩ := flagRight_setupDtls hstart name hoff hstate
  split
  · rename_i hdone
    rw [setDtlsState_dtls]
    exact FlagOff.right (hfailed (by simpa using hdone)) (by simp)
  · exact hwritable ▸ hright

/-- A fingerprint that a connected session takes, or that makes a new session. -/
theorem flagRight_setRemoteFingerprint
    (h : FlagRight (c.transports name).channel.writable (c.transports name).dtls)
    {digestAlg digest : Bytes}
    (haccepted : (c.transports name).dtls.dtlsActive = true →
      (c.transports name).dtls.dtls.isSome →
      (c.transports name).dtls.remoteFingerprintValue = [] → digest ≠ [] → digestAlg ≠ [] →
      ssl.setPeerCertificateDigest c.calls ≠ .none →
      ¬ ((c.transports name).dtls.dtlsState = .connected ∧
        (c.transports name).channel.writable = true)) :
    FlagRight (c.transports name).channel.writable
      ((setRemoteFingerprint ssl c name digestAlg digest).2.transports name).dtls := by
  unfold setRemoteFingerprint
  dsimp only
  split
  · -- the fingerprint it has already, or no algorithm, or no DTLS
    exact h
  rename_i hdifferent
  split
  · rw [modifyDtls_dtls]
    exact ⟨nofun, h.session⟩
  rename_i hdigestAlg
  split
  · exact h
  rename_i hinactive
  have hactive : (c.transports name).dtls.dtlsActive = true := by simpa using hinactive
  have hset := modifyDtls_dtls c name fun d =>
    { d with remoteFingerprintValue := digest, remoteFingerprintAlg := digestAlg }
  have hchannel := modifyDtls_channel c name
    (fun d => { d with remoteFingerprintValue := digest, remoteFingerprintAlg := digestAlg }) name
  split
  · rename_i hfirst
    obtain ⟨hsome, hvalue⟩ : (c.transports name).dtls.dtls.isSome ∧
        (c.transports name).dtls.remoteFingerprintValue = [] := by simpa using hfirst
    split
    · -- the session does not take it
      rename_i herr
      have hdigest : digest ≠ [] := fun hnil => hdifferent ⟨hactive, hvalue.trans hnil.symm, hdigestAlg⟩
      have hoff := h.off (haccepted hactive hsome hvalue hdigest hdigestAlg herr)
      rw [setDtlsState_dtls, tick_transports, hset]
      exact FlagOff.right hoff (by simp)
    · rw [tick_transports, hset]
      exact ⟨h.sound, h.session⟩
  · -- a new session
    rename_i hnew
    split
    · -- there is a session with another fingerprint, which is reset first
      refine flagRight_newSession hstart ?_ ?_ ?_
      · unfold setWritableState
        rw [modifyDtls_channel, setDtlsState_channel, modifyDtls_channel, hchannel]
      · unfold setWritableState
        rw [modifyDtls_dtls]
        exact fun _ => rfl
      · unfold setWritableState
        rw [modifyDtls_dtls, setDtlsState_dtls]
        simp
    · -- there is no session, so the transport is not connected
      rename_i hold
      have hnone : ¬ (c.transports name).dtls.dtls.isSome := by
        intro hsome
        cases hchange : decide ((c.transports name).dtls.remoteFingerprintValue.length > 0) <;>
          simp_all
      have hstate : (c.transports name).dtls.dtlsState ≠ .connected := fun h' => hnone (h.session h')
      refine flagRight_newSession hstart (by rw [hchannel]) ?_ ?_
      · rw [hset]
        exact h.off fun hand => hstate hand.1
      · rw [hset]
        exact hstate

end

/-! ### Steps -/

/-- The flags of all transports are right. -/
def FlagsRight (c : TransportController) : Prop :=
  ∀ name, FlagRight (c.transports name).channel.writable (c.transports name).dtls

section

variable {ssl : SslAdapter} (hstart : ∀ n, (ssl.startSSL n).1 = []) {c : TransportController}
  {name : Bytes}

include hstart

/-- `_update_state` of the channel. -/
theorem flagRight_channelUpdateState
    (h : FlagRight (c.transports name).channel.writable (c.transports name).dtls)
    (writable receiving : Bool) (state : Xrtc.Ice.IceTransportState) :
    FlagRight
      ((IceChannel.updateState ssl c name writable receiving state).transports
        name).channel.writable
      ((IceChannel.updateState ssl c name writable receiving state).transports name).dtls :=
  setState_right (setReceiving_right (flagRight_setWritable hstart h writable) receiving) state

/-- An event that does not make the flag wrong keeps it right, by cases on the event. The flag of
another transport is not touched. -/
theorem flagsRight_step (h : FlagsRight c) (x : Bytes × Event) (hx : ¬ Breaks ssl c x) :
    FlagsRight (step ssl c x) := by
  intro other
  by_cases hne : x.1 = other
  swap
  · rw [(undisturbed_step ssl c x hne).transport]
    exact h other
  subst hne
  obtain ⟨name, e⟩ := x
  have hself := h name
  unfold step
  dsimp only
  split
  swap
  · exact hself
  rename_i hmem
  -- the channel stays as it is in an event that is not its own
  have hactions : ∀ c', Actions ssl name c c' →
      FlagRight (c.transports name).channel.writable (c'.transports name).dtls →
      FlagRight (c'.transports name).channel.writable (c'.transports name).dtls := by
    intro c' hacts hright
    rw [hacts.channel]
    exact hright
  cases e with
  | iceChannel writable receiving state =>
      exact flagRight_channelUpdateState hstart hself writable receiving state
  | readPacket buf ts =>
      refine hactions _ (actions_onReadPacket ssl buf ts) (flagRight_onReadPacket hstart hself buf ts
        fun hstate hpacket hcomplete hsome hactive hopen => ?_)
      by_contra hwritable
      exact hx ⟨hmem, hactive, hsome, by simpa using hwritable, hstate, hpacket, hcomplete, hopen⟩
  | dtlsEvent e =>
      show FlagRight ((if (c.transports name).dtls.dtls.isSome then
          DtlsTransport.onDtlsEvent ssl c name e else c).transports name).channel.writable
        ((if (c.transports name).dtls.dtls.isSome then
          DtlsTransport.onDtlsEvent ssl c name e else c).transports name).dtls
      split
      swap
      · exact hself
      rename_i hsome
      refine hactions _ (actions_onDtlsEvent ssl hsome e).1 ?_
      rw [onDtlsEvent_dtls]
      refine hself.left hsome (left_afterEvent _ e) fun hactive hopen => ?_
      by_contra hwritable
      exact hx ⟨hmem, hactive, hsome, by simpa using hwritable, hopen⟩
  | setRemoteFingerprint digestAlg digest =>
      refine hactions _ (actions_setRemoteFingerprint ssl digestAlg digest)
        (flagRight_setRemoteFingerprint hstart hself
          fun hactive hsome hvalue hdigest hdigestAlg herr hand => ?_)
      exact hx ⟨hmem, hactive, hsome, hand.2, hand.1, hvalue, hdigest, hdigestAlg, herr⟩

omit hstart in
/-- An event that breaks the flag leaves it wrong. Either an event of the adapter sets it without
a look at the channel, or a first fingerprint is refused while it is set. -/
theorem not_writableSound_step (h : FlagsRight c) (x : Bytes × Event) (hx : Breaks ssl c x) :
    ¬ WritableSound ((step ssl c x).transports x.1) := by
  obtain ⟨name, e⟩ := x
  obtain ⟨hmem, hactive, hsome, hbreaks⟩ := hx
  have hstep : step ssl c (name, e) = handle ssl c name e := if_pos hmem
  dsimp only at hactive hsome hbreaks ⊢
  rw [hstep]
  cases e with
  | iceChannel writable receiving state => exact absurd hbreaks id
  | readPacket buf ts =>
      obtain ⟨hchannel, hstate, hpacket, hcomplete, hopen⟩ := hbreaks
      have hhandled : DtlsTransport.onReadPacket ssl c name buf ts
          = (DtlsTransport.handleDtlsPacket ssl c name buf).2 := by
        unfold DtlsTransport.onReadPacket
        rcases hstate with hstate | hstate <;> simp [hstate, hpacket]
      have hleft := left_afterEvents (ssl.onRead c.calls) (c.transports name).dtls
      rw [hopen] at hleft
      refine Left.wrong (d := (c.transports name).dtls) ?_ hactive ?_
      · -- the packet goes to the session, whose events end in a state that is not open
        show Left _ _ ((DtlsTransport.onReadPacket ssl c name buf ts).transports name).dtls
        rw [hhandled, handleDtlsPacket_dtls, if_pos ⟨hcomplete, hsome⟩]
        exact hleft
      · exact ((actions_onReadPacket ssl buf ts).channel name).symm ▸ hchannel
  | dtlsEvent e =>
      obtain ⟨hchannel, hopen⟩ := hbreaks
      have hleft := left_afterEvent (c.transports name).dtls e
      rw [hopen] at hleft
      have hhandled : handle ssl c name (.dtlsEvent e) = DtlsTransport.onDtlsEvent ssl c name e :=
        if_pos hsome
      rw [hhandled]
      refine Left.wrong (d := (c.transports name).dtls) ?_ hactive ?_
      · rw [onDtlsEvent_dtls]
        exact hleft
      · exact ((actions_onDtlsEvent ssl hsome e).1.channel name).symm ▸ hchannel
  | setRemoteFingerprint digestAlg digest =>
      obtain ⟨hchannel, hstate, hvalue, hdigest, hdigestAlg, herr⟩ := hbreaks
      -- the transport is writable, and the failure leaves the flag as it is
      have hwritable := ((h name).sound hactive).mpr ⟨hstate, hchannel⟩
      have hfailed : ((DtlsTransport.setRemoteFingerprint ssl c name digestAlg digest).2.transports
          name).dtls.writable = true ∧
          ((DtlsTransport.setRemoteFingerprint ssl c name digestAlg digest).2.transports
            name).dtls.dtlsActive = true ∧
          ((DtlsTransport.setRemoteFingerprint ssl c name digestAlg digest).2.transports
            name).dtls.dtlsState = .failed := by
        unfold DtlsTransport.setRemoteFingerprint
        dsimp only
        rw [if_neg (by simp [hvalue, hdigest.symm]), if_neg hdigestAlg, if_neg (by simp [hactive]),
          if_pos (by simp [hsome, hvalue])]
        split
        swap
        · rename_i haccepted
          exact absurd herr haccepted
        rw [setDtlsState_dtls, tick_transports, modifyDtls_dtls]
        exact ⟨hwritable, hactive, rfl⟩
      intro hsound
      have hboth := (hsound hfailed.2.1).mp hfailed.1
      rw [show ((handle ssl c name (.setRemoteFingerprint digestAlg digest)).transports
        name).dtls.dtlsState = .failed from hfailed.2.2] at hboth
      cases hboth.1

end

/-! ### Runs -/

/-- The flag of a new transport is off, and DTLS is not connected. -/
theorem flagsRight_fresh (certificate : Option Certificate) (mids : List Bytes) :
    FlagsRight ((freshController certificate).addTransports mids) := by
  have hadd : ∀ (mids : List Bytes) (c : TransportController),
      (∀ name, (c.transports name).dtls.writable = false ∧
        (c.transports name).dtls.dtlsState = .new) →
      ∀ name, ((c.addTransports mids).transports name).dtls.writable = false ∧
        ((c.addTransports mids).transports name).dtls.dtlsState = .new := by
    intro mids
    induction mids with
    | nil => exact fun _ h => h
    | cons mid mids ih =>
        intro c h
        refine ih (c.addTransport mid) fun name => ?_
        by_cases hmid : name = mid
        · subst hmid
          rw [addTransport_self, setLocalCertificate_dtlsState]
          refine ⟨?_, rfl⟩
          cases c.localCertificate <;> rfl
        · rw [addTransport_of_ne c hmid]
          exact h name
  intro name
  obtain ⟨hwritable, hnew⟩ := hadd mids (freshController certificate) (fun _ => ⟨rfl, rfl⟩) name
  exact FlagOff.right (fun _ => hwritable) (by simp [hnew])

/-- The flags of the transports are right along a run exactly if no step of it is one of the
two that make them wrong. -/
theorem always_writableSound_iff {ssl : SslAdapter} (hstart : ∀ n, (ssl.startSSL n).1 = [])
    (certificate : Option Certificate) (mids : List Bytes) (xs : List (Bytes × Event)) :
    Always (step ssl) (fun c => ∀ name, WritableSound (c.transports name))
        ((freshController certificate).addTransports mids) xs ↔
      Steps (step ssl) (fun c x => ¬ Breaks ssl c x)
        ((freshController certificate).addTransports mids) xs := by
  refine always_iff_steps (fun c (h : FlagsRight c) name => (h name).sound)
    (fun c x h hx => flagsRight_step hstart h x hx) (fun c x h hx hsound => ?_)
    (flagsRight_fresh certificate mids)
  exact not_writableSound_step h x (not_not.mp hx) (hsound x.1)

/-- The handshake completes on a writable channel, which is lost and found again. -/
def completedHandshake : List (Bytes × Event) :=
  [([1], .setRemoteFingerprint [2] [3]), ([1], .iceChannel true true .connected),
    ([1], .dtlsEvent { opened := true }), ([1], .iceChannel false true .disconnected),
    ([1], .iceChannel true true .connected)]

/-- A handshake that completes while the channel is writable: the flag is right all the time. -/
theorem completedHandshake_writableSound :
    Always (step quietAdapter) (fun c => ∀ name, WritableSound (c.transports name))
      ((freshController (some 0)).addTransports [[1]]) completedHandshake := by
  refine (always_writableSound_iff (fun _ => rfl : ∀ n, (quietAdapter.startSSL n).1 = [])
    (some 0) [[1]] _).mpr ?_
  refine ⟨?_, fun h => h.2.2.2, ?_, fun h => h.2.2.2, fun h => h.2.2.2, trivial⟩
  · -- there is no session yet
    exact fun h => absurd h.2.2.1 (by decide)
  · -- the channel is writable
    exact fun h => absurd h.2.2.2.1 (by decide)

/-- The channel is lost before the handshake completes. -/
def lateHandshake : List (Bytes × Event) :=
  [([1], .setRemoteFingerprint [2] [3]), ([1], .iceChannel true true .connected),
    ([1], .iceChannel false true .disconnected), ([1], .dtlsEvent { opened := true })]

/-- A handshake that completes after the channel was lost sets the flag, which is wrong then. -/
theorem lateHandshake_not_writableSound :
    ¬ Always (step quietAdapter) (fun c => ∀ name, WritableSound (c.transports name))
      ((freshController (some 0)).addTransports [[1]]) lateHandshake := by
  intro h
  have hlast := h.last [1]
  revert hlast
  unfold WritableSound
  decide

end Xrtc.Proofs.Pc
