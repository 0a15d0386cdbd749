import Xrtc.Proofs.Ice.ChannelSignals
import Xrtc.Proofs.Pc.ConnectionState
import Xrtc.Pc.PeerConnection

/-!
# `Xrtc.Proofs.Pc.ChannelValues`: the values of the channels under a controller

Only a channel changes its own values. `valuesOf_step_iceChannel` says what its event does to
them and `step_channel` that no other event does anything, nor does a description
(`valuesOf_setRemoteDescription`). All of these keep the state of the peer connection the
aggregate of its transports (`Aggregated`).
-/

set_option autoImplicit false

namespace Xrtc.Proofs.Pc

open Xrtc.Lib
open Xrtc.Ice (IceParameters IceTransportState)
open Xrtc.Pc
open Xrtc.Pc.TransportController
open Xrtc.Proofs.Ice (ChannelValues valuesOf)

variable {ssl : SslAdapter} {c c' : TransportController} {name : Bytes}

/-! ### Events of a channel -/

/-- Only the flag of the named channel changes, whatever the transport does about it. -/
theorem valuesOf_setWritable (writable : Bool) (other : Bytes) :
    valuesOf ((IceChannel.setWritable ssl c name writable).transports other).channel
      = if other = name then { valuesOf (c.transports name).channel with writable }
        else valuesOf (c.transports other).channel := by
  unfold IceChannel.setWritable
  split
  · rename_i hsame
    split
    · rename_i hname
      rw [hname, ← hsame]
      rfl
    · rfl
  · -- the agent and the DTLS transport leave the channel alone
    have hactions := @actions_onWritableState ssl (IceAgent.updateState (c.modify name fun t =>
      let hasBeenConnection := if writable then true else t.channel.hasBeenConnection
      { t with channel := { t.channel with hasBeenConnection, writable } }))
    dsimp only at hactions ⊢
    rw [hactions.channel, agentUpdateState_transports]
    by_cases hother : other = name
    · rw [if_pos hother, hother, modify_self]
      rfl
    · rw [if_neg hother, modify_of_ne _ _ _ hother]

/-- The same for the flag that it receives. The transport tells its own flag on, which is no value
of a channel. -/
theorem valuesOf_setReceiving (receiving : Bool) (other : Bytes) :
    valuesOf ((IceChannel.setReceiving c name receiving).transports other).channel
      = if other = name then { valuesOf (c.transports name).channel with receiving }
        else valuesOf (c.transports other).channel := by
  unfold IceChannel.setReceiving
  split
  · rename_i hsame
    split
    · rename_i hname
      rw [hname, ← hsame]
      rfl
    · rfl
  · have hreceiving : ∀ (v : TransportController) (other : Bytes),
        ((DtlsTransport.onReceivingState v name).transports other).channel
          = (v.transports other).channel := by
      intro v other
      unfold DtlsTransport.onReceivingState DtlsTransport.setReceiving
      split
      · rfl
      · rw [updateState_transports, updateState_transports, modifyDtls_channel]
    dsimp only
    rw [hreceiving, agentUpdateState_transports]
    by_cases hother : other = name
    · rw [if_pos hother, hother, modify_self]
      rfl
    · rw [if_neg hother, modify_of_ne _ _ _ hother]

/-- The same for its state. -/
theorem valuesOf_setState (state : IceTransportState) (other : Bytes) :
    valuesOf ((IceChannel.setState c name state).transports other).channel
      = if other = name then { valuesOf (c.transports name).channel with state }
        else valuesOf (c.transports other).channel := by
  unfold IceChannel.setState
  split
  · rw [agentUpdateState_transports]
    by_cases hother : other = name
    · rw [if_pos hother, hother, modify_self]
      rfl
    · rw [if_neg hother, modify_of_ne _ _ _ hother]
  · rename_i hsame
    push Not at hsame
    split
    · rename_i hname
      rw [hname, hsame]
      rfl
    · rfl

/-- After the event of a channel its values are those of the event. -/
theorem valuesOf_step_iceChannel (hname : name ∈ c.names) (v : ChannelValues) (other : Bytes) :
    valuesOf ((step ssl c (name, .iceChannel v.writable v.receiving v.state)).transports
        other).channel
      = if other = name then v else valuesOf (c.transports other).channel := by
  unfold step
  rw [if_pos hname]
  show valuesOf ((IceChannel.setState (IceChannel.setReceiving
    (IceChannel.setWritable ssl c name v.writable) name v.receiving) name v.state).transports
      other).channel = _
  rw [valuesOf_setState, valuesOf_setReceiving, valuesOf_setReceiving, valuesOf_setWritable]
  by_cases hother : other = name
  · simp [hother]
  · rw [valuesOf_setWritable]
    simp [hother]

/-- An event that is not of a channel. -/
def IsUpper : Event → Bool
  | .iceChannel .. => false
  | _ => true

/-- Such an event leaves every channel alone. -/
theorem step_channel {e : Event} (he : IsUpper e) (other : Bytes) :
    ((step ssl c (name, e)).transports other).channel = (c.transports other).channel := by
  unfold step
  split
  swap
  · rfl
  cases e with
  | iceChannel => cases he
  | readPacket buf ts => exact (actions_onReadPacket ssl buf ts).channel other
  | dtlsEvent e =>
      show ((if (c.transports name).dtls.dtls.isSome then
        DtlsTransport.onDtlsEvent ssl c name e else c).transports other).channel = _
      split
      · rename_i hsome
        exact (actions_onDtlsEvent ssl hsome e).1.channel other
      · rfl
  | setRemoteFingerprint digestAlg digest =>
      exact (actions_setRemoteFingerprint ssl digestAlg digest).channel other

/-! ### Descriptions -/

/-- Parameters change no state, neither of the channel nor of DTLS. -/
theorem channelState_setRemoteIceParams (mid : Bytes) (params : IceParameters) (other : Bytes) :
    valuesOf ((c.setRemoteIceParams mid params).transports other).channel
        = valuesOf (c.transports other).channel ∧
      ((c.setRemoteIceParams mid params).transports other).dtls = (c.transports other).dtls := by
  unfold TransportController.setRemoteIceParams
  split
  · by_cases hother : other = mid
    · rw [hother, modify_self]
      exact ⟨rfl, rfl⟩
    · rw [modify_of_ne _ _ _ hother]
      exact ⟨rfl, rfl⟩
  · exact ⟨rfl, rfl⟩

/-- They touch nothing that is aggregated. -/
theorem setRemoteIceParams_fields (mid : Bytes) (params : IceParameters) :
    (c.setRemoteIceParams mid params).names = c.names ∧
      (c.setRemoteIceParams mid params).iceState = c.iceState ∧
      (c.setRemoteIceParams mid params).pcState = c.pcState := by
  unfold TransportController.setRemoteIceParams
  split
  · exact ⟨rfl, rfl, rfl⟩
  · exact ⟨rfl, rfl, rfl⟩

/-- So the aggregated states stay right. -/
theorem Aggregated.setRemoteIceParams (h : Aggregated c) (mid : Bytes) (params : IceParameters) :
    Aggregated (c.setRemoteIceParams mid params) := by
  obtain ⟨hnames, hiceState, hpcState⟩ := @setRemoteIceParams_fields c mid params
  refine h.congr hnames (fun other => ?_) (fun other => ?_) hiceState hpcState
  · exact congrArg ChannelValues.state (channelState_setRemoteIceParams mid params other).1
  · rw [(channelState_setRemoteIceParams mid params other).2]

/-- A section of a description. -/
theorem setRemoteTransport_values {desc : SessionDescription} {mid : Bytes}
    (h : c.setRemoteTransport ssl desc mid = some c') (hc : Aggregated c) :
    Aggregated c' ∧ ∀ other, valuesOf (c'.transports other).channel
      = valuesOf (c.transports other).channel := by
  unfold TransportController.setRemoteTransport at h
  split at h
  · cases h
    exact ⟨hc, fun _ => rfl⟩
  · rename_i td _
    have hparams := hc.setRemoteIceParams mid ⟨td.iceUfrag, td.icePwd⟩
    have hvalues := fun other =>
      (@channelState_setRemoteIceParams c mid ⟨td.iceUfrag, td.icePwd⟩ other).1
    dsimp only at h
    split at h
    · split at h
      · cases h
      · rename_i fp _
        cases h
        have hactions := @actions_setRemoteFingerprint ssl
          (c.setRemoteIceParams mid ⟨td.iceUfrag, td.icePwd⟩) mid fp.algorithm fp.digest
        refine ⟨aggregated_of_actions hactions hparams, fun other => ?_⟩
        rw [hactions.channel, hvalues]
    · cases h
      exact ⟨hparams, hvalues⟩

/-- A description changes no value of a channel. -/
theorem setRemoteDescription_values {desc : SessionDescription}
    (h : c.setRemoteDescription ssl desc = some c') (hc : Aggregated c) :
    Aggregated c' ∧ ∀ other, valuesOf (c'.transports other).channel
      = valuesOf (c.transports other).channel := by
  refine @invariant_of_runPartial _ _ (fun v => Aggregated v ∧ ∀ other,
    valuesOf (v.transports other).channel = valuesOf (c.transports other).channel) _ ?_ _ _ _
      ⟨hc, fun _ => rfl⟩ h
  intro v content v' hnext hv
  obtain ⟨hagg, hvalues⟩ := setRemoteTransport_values hnext hv.1
  exact ⟨hagg, fun other => (hvalues other).trans (hv.2 other)⟩

/-- New transports have new channels. -/
theorem addTransports_channel {certificate : Option Certificate} (mids : List Bytes)
    (other : Bytes) :
    (((freshController certificate).addTransports mids).transports other).channel = {} := by
  have hadd : ∀ c : TransportController, (∀ other, (c.transports other).channel = {}) →
      ∀ mid other, ((c.addTransport mid).transports other).channel = {} := by
    intro c hc mid other
    by_cases hother : other = mid
    · rw [hother, addTransport_self]
      dsimp only
      split
      · exact hc mid
      · rfl
    · rw [addTransport_of_ne c hother, hc]
  unfold TransportController.addTransports
  suffices h : ∀ c : TransportController, (∀ other, (c.transports other).channel = {}) →
      ((mids.foldl TransportController.addTransport c).transports other).channel = {} by
    exact h _ fun _ => rfl
  induction mids with
  | nil => exact fun c hc => hc other
  | cons mid mids ih => exact fun c hc => ih _ (hadd c hc mid)

/-! ### What the state of a peer connection says about its channels -/

/-- With none counted in a state, no channel is in it. -/
theorem channelState_ne_of_count {state : IceTransportState} (h : c.iceStateCount state = 0)
    (hname : name ∈ c.names) : (c.transports name).channel.state ≠ state := by
  unfold iceStateCount at h
  simpa using List.countP_eq_zero.mp h name hname

/-- A state other than `failed` has no failed channel in it. -/
theorem channelState_of_not_failed (h : c.computePcState ≠ .failed) (hname : name ∈ c.names) :
    (c.transports name).channel.state ≠ .failed := by
  apply channelState_ne_of_count _ hname
  by_contra hcount
  apply h
  unfold computePcState
  dsimp only
  rw [if_pos (by omega)]

/-- In the state `connected` no channel is on its way, and none has been lost. -/
theorem channelState_of_connected (h : c.computePcState = .connected) (hname : name ∈ c.names) :
    (c.transports name).channel.state ∈
      [IceTransportState.connected, IceTransportState.completed, IceTransportState.closed] := by
  unfold computePcState at h
  dsimp only at h
  split_ifs at h with hfailed hdisconnected hnew hconnecting hconnected
  have hne : ∀ state ∈ [IceTransportState.failed, .disconnected, .checking, .new],
      (c.transports name).channel.state ≠ state := by
    intro state hstate
    apply channelState_ne_of_count _ hname
    simp only [List.mem_cons, List.not_mem_nil, or_false] at hstate
    rcases hstate with rfl | rfl | rfl | rfl
    · omega
    · omega
    · omega
    · omega
  cases hstate : (c.transports name).channel.state with
  | connected | completed | closed => simp
  | failed | disconnected | checking | new => exact absurd hstate (hne _ (by simp))

end Xrtc.Proofs.Pc
