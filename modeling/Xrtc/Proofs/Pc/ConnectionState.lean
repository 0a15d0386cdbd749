import Xrtc.Proofs.Pc.TransportActions

/-!
# `Xrtc.Proofs.Pc.ConnectionState`: the state of a peer connection

The controller computes its state from the states of all channels and all DTLS
transports. It hears of a DTLS transport at once, but of a channel only when the agent's
own aggregate changes. `computePcState_eq` is the reason why that is enough: as long as no
channel is closed, the controller's aggregate depends on the channels only through the
agent's.

`Aggregated` says that both aggregates are up to date. Every action of a transport keeps
it (`aggregated_of_action`), and so does a channel that goes to another state
(`aggregated_setState`). `always_aggregated` puts them together, for every run of the
events of the transports and of arbitrary changes of a DTLS state.
-/

set_option autoImplicit false

namespace Xrtc.Proofs.Pc

open Xrtc.Lib
open Xrtc.Ice (IceTransportState)
open Xrtc.Pc
open Xrtc.Pc.TransportController

/-! ### Counting -/

section

variable (c : TransportController)

/-- Every channel is in one of the seven states. -/
theorem iceStateCount_sum :
    c.iceStateCount .new + c.iceStateCount .checking + c.iceStateCount .connected
      + c.iceStateCount .completed + c.iceStateCount .failed + c.iceStateCount .disconnected
      + c.iceStateCount .closed = c.names.length := by
  unfold iceStateCount
  induction c.names with
  | nil => rfl
  | cons name names ih =>
      simp only [List.countP_cons, List.length_cons]
      cases (c.transports name).channel.state <;> simp <;> omega

/-- Every DTLS transport is in one of the five states. -/
theorem dtlsStateCount_sum :
    c.dtlsStateCount .new + c.dtlsStateCount .connecting + c.dtlsStateCount .connected
      + c.dtlsStateCount .closed + c.dtlsStateCount .failed = c.names.length := by
  unfold dtlsStateCount
  induction c.names with
  | nil => rfl
  | cons name names ih =>
      simp only [List.countP_cons, List.length_cons]
      cases (c.transports name).dtls.dtlsState <;> simp <;> omega

end

variable {c c' : TransportController}

/-- How many channels are in a state depends on the names and on the states of the channels. -/
theorem iceStateCount_congr (hnames : c'.names = c.names)
    (hstate : ∀ name, (c'.transports name).channel.state = (c.transports name).channel.state)
    (state : IceTransportState) : c'.iceStateCount state = c.iceStateCount state := by
  unfold iceStateCount
  rw [hnames]
  simp only [hstate]

/-- How many DTLS transports are in a state depends on the names and on their states. -/
theorem dtlsStateCount_congr (hnames : c'.names = c.names)
    (hstate : ∀ name, (c'.transports name).dtls.dtlsState = (c.transports name).dtls.dtlsState)
    (state : DtlsTransportState) : c'.dtlsStateCount state = c.dtlsStateCount state := by
  unfold dtlsStateCount
  rw [hnames]
  simp only [hstate]

/-- So does the state that the agent computes. -/
theorem computeIceState_congr (hnames : c'.names = c.names)
    (hstate : ∀ name, (c'.transports name).channel.state = (c.transports name).channel.state) :
    IceAgent.computeIceState c' = IceAgent.computeIceState c := by
  unfold IceAgent.computeIceState
  simp only [iceStateCount_congr hnames hstate, hnames]

/-! ### The controller's aggregate through the agent's -/

/-- The state of the peer connection from the aggregate of the channels and the states of
the DTLS transports. -/
def pcStateOf (c : TransportController) (iceState : IceTransportState) : PeerConnectionState :=
  if iceState = .failed ∨ c.dtlsStateCount .failed > 0 then .failed
  else if iceState = .disconnected then .disconnected
  else if iceState = .new ∧
      c.dtlsStateCount .new + c.dtlsStateCount .closed = c.names.length then .new
  else if iceState = .new ∨ iceState = .checking ∨
      c.dtlsStateCount .connecting + c.dtlsStateCount .new > 0 then .connecting
  else if c.dtlsStateCount .connected + c.dtlsStateCount .closed = c.names.length then .connected
  else .new

/-- What the agent's aggregate says about the channels, with no channel closed. -/
theorem computeIceState_cases (hclosed : c.iceStateCount .closed = 0) :
    (IceAgent.computeIceState c = .failed ∧ 0 < c.iceStateCount .failed) ∨
    (IceAgent.computeIceState c = .disconnected ∧ c.iceStateCount .failed = 0 ∧
      0 < c.iceStateCount .disconnected) ∨
    (IceAgent.computeIceState c = .new ∧ c.iceStateCount .new = c.names.length) ∨
    (IceAgent.computeIceState c = .checking ∧ c.iceStateCount .failed = 0 ∧
      c.iceStateCount .disconnected = 0 ∧ c.iceStateCount .new < c.names.length ∧
      0 < c.iceStateCount .new + c.iceStateCount .checking) ∨
    ((IceAgent.computeIceState c = .completed ∨ IceAgent.computeIceState c = .connected) ∧
      c.iceStateCount .connected + c.iceStateCount .completed = c.names.length ∧
      0 < c.names.length) := by
  have hsum := iceStateCount_sum c
  unfold IceAgent.computeIceState
  dsimp only
  split_ifs <;> simp <;> omega

/-- With no channel closed, the controller's aggregate factors through the agent's. -/
theorem computePcState_eq (hclosed : c.iceStateCount .closed = 0) :
    c.computePcState = pcStateOf c (IceAgent.computeIceState c) := by
  have hice := iceStateCount_sum c
  have hdtls := dtlsStateCount_sum c
  unfold computePcState pcStateOf
  dsimp only
  rcases computeIceState_cases hclosed with ⟨hstate, _⟩ | ⟨hstate, _, _⟩ | ⟨hstate, _⟩ |
    ⟨hstate, _, _, _, _⟩ | ⟨hstate | hstate, _, _⟩
  all_goals
    rw [hstate]
    simp only [reduceCtorEq, false_or, true_or, true_and, false_and, if_true, if_false]
    split_ifs <;> first | rfl | omega

/-- So does the state that the controller computes. -/
theorem computePcState_congr (hnames : c'.names = c.names)
    (hice : ∀ name, (c'.transports name).channel.state = (c.transports name).channel.state)
    (hdtls : ∀ name, (c'.transports name).dtls.dtlsState = (c.transports name).dtls.dtlsState) :
    c'.computePcState = c.computePcState := by
  unfold computePcState
  simp only [iceStateCount_congr hnames hice, dtlsStateCount_congr hnames hdtls, hnames]

/-- Channels that keep the agent's aggregate keep the controller's. -/
theorem computePcState_of_computeIceState (hnames : c'.names = c.names)
    (hdtls : ∀ name, (c'.transports name).dtls.dtlsState = (c.transports name).dtls.dtlsState)
    (hclosed : c.iceStateCount .closed = 0) (hclosed' : c'.iceStateCount .closed = 0)
    (hice : IceAgent.computeIceState c' = IceAgent.computeIceState c) :
    c'.computePcState = c.computePcState := by
  rw [computePcState_eq hclosed, computePcState_eq hclosed', hice]
  unfold pcStateOf
  simp only [dtlsStateCount_congr hnames hdtls, hnames]

/-! ### The signals -/

/-- The state of the peer connection is computed anew, and nothing else changes. -/
theorem updateState_of_eq (h : c.pcState = c.computePcState) : c.updateState = c := by
  unfold TransportController.updateState
  rw [h]
  simp

/-- A second `_update_state` finds nothing to do. -/
theorem updateState_updateState : c.updateState.updateState = c.updateState := by
  refine updateState_of_eq ?_
  rw [updateState_pcState]
  refine (computePcState_congr (updateState_names c) ?_ ?_).symm
  all_goals
    intro name
    rw [updateState_transports]

/-- The slots of the same signal find the work done by the first. -/
theorem signalIceState_eq (hne : c.names ≠ []) : IceAgent.signalIceState c = c.updateState := by
  unfold IceAgent.signalIceState
  cases hnames : c.names with
  | nil => exact absurd hnames hne
  | cons name names =>
      rw [List.length_cons, Function.iterate_succ_apply]
      exact Function.iterate_fixed updateState_updateState _

/-- The agent is right already, and nobody is told. -/
theorem agentUpdateState_of_eq (h : c.iceState = IceAgent.computeIceState c) :
    IceAgent.updateState c = c := by
  unfold IceAgent.updateState
  rw [h]
  simp

/-- The agent has a new aggregate, and the controller computes its own. Both are functions of the
transports, which the update does not touch. -/
theorem agentUpdateState_of_ne (hne : c.names ≠ [])
    (h : c.iceState ≠ IceAgent.computeIceState c) :
    (IceAgent.updateState c).names = c.names ∧
      (IceAgent.updateState c).transports = c.transports ∧
      (IceAgent.updateState c).iceState = IceAgent.computeIceState c ∧
      (IceAgent.updateState c).pcState = c.computePcState := by
  -- the controller may have been told about the connected state before
  have htold : ∀ c' : TransportController, c'.names = c.names → c'.transports = c.transports →
      (IceAgent.signalIceState { c' with iceState := IceAgent.computeIceState c }).names
          = c.names ∧
        (IceAgent.signalIceState { c' with iceState := IceAgent.computeIceState c }).transports
          = c.transports ∧
        (IceAgent.signalIceState { c' with iceState := IceAgent.computeIceState c }).iceState
          = IceAgent.computeIceState c ∧
        (IceAgent.signalIceState { c' with iceState := IceAgent.computeIceState c }).pcState
          = c.computePcState := by
    intro c' hnames htransports
    rw [signalIceState_eq (by rw [hnames]; exact hne)]
    refine ⟨(updateState_names _).trans hnames, (updateState_transports _).trans htransports,
      updateState_iceState _, ?_⟩
    rw [updateState_pcState]
    refine computePcState_congr hnames ?_ ?_
    all_goals
      intro name
      rw [htransports]
  unfold IceAgent.updateState
  dsimp only
  rw [if_pos h]
  split
  · rw [signalIceState_eq hne]
    exact htold _ (updateState_names c) (updateState_transports c)
  · exact htold c rfl rfl

/-! ### The invariant -/

/-- Both aggregates are up to date, and no channel is closed. -/
structure Aggregated (c : TransportController) : Prop where
  iceState : c.iceState = IceAgent.computeIceState c
  pcState : c.pcState = c.computePcState
  notClosed : ∀ name, (c.transports name).channel.state ≠ .closed

/-- No channel is counted as closed if none is. -/
theorem iceStateCount_closed (h : ∀ name, (c.transports name).channel.state ≠ .closed) :
    c.iceStateCount .closed = 0 := by
  unfold iceStateCount
  rw [List.countP_eq_zero]
  intro name _
  simp [h name]

/-- Changes that no aggregate looks at. -/
theorem Aggregated.congr (h : Aggregated c) (hnames : c'.names = c.names)
    (hice : ∀ name, (c'.transports name).channel.state = (c.transports name).channel.state)
    (hdtls : ∀ name, (c'.transports name).dtls.dtlsState = (c.transports name).dtls.dtlsState)
    (hiceState : c'.iceState = c.iceState) (hpcState : c'.pcState = c.pcState) :
    Aggregated c' where
  iceState := by rw [hiceState, h.iceState, computeIceState_congr hnames hice]
  pcState := by rw [hpcState, h.pcState, computePcState_congr hnames hice hdtls]
  notClosed := fun name => by rw [hice]; exact h.notClosed name

/-- After `_update_state` the controller's aggregate is up to date. -/
theorem Aggregated.updateState (hiceState : c.iceState = IceAgent.computeIceState c)
    (hclosed : ∀ name, (c.transports name).channel.state ≠ .closed) :
    Aggregated c.updateState where
  iceState := by
    rw [updateState_iceState, hiceState]
    refine (computeIceState_congr (updateState_names c) fun name => ?_).symm
    rw [updateState_transports]
  pcState := by
    rw [updateState_pcState]
    refine (computePcState_congr (updateState_names c) ?_ ?_).symm
    all_goals
      intro name
      rw [updateState_transports]
  notClosed := fun name => by rw [updateState_transports]; exact hclosed name

variable {ssl : SslAdapter} {name : Bytes}

/-- A change of a DTLS transport that keeps its state keeps all states. -/
theorem modifyDtls_dtlsState {f : DtlsTransport → DtlsTransport}
    (h : (f (c.transports name).dtls).dtlsState = (c.transports name).dtls.dtlsState)
    (other : Bytes) : ((c.modifyDtls name f).transports other).dtls.dtlsState
      = (c.transports other).dtls.dtlsState := by
  by_cases hne : other = name
  · subst hne
    rw [modifyDtls_dtls, h]
  · unfold modifyDtls
    rw [modify_of_ne _ _ _ hne]

/-- Such a change leaves the controller aggregated. -/
theorem Aggregated.modifyDtls (h : Aggregated c) {f : DtlsTransport → DtlsTransport}
    (hf : (f (c.transports name).dtls).dtlsState = (c.transports name).dtls.dtlsState) :
    Aggregated (c.modifyDtls name f) :=
  h.congr rfl (fun other => by rw [modifyDtls_channel]) (modifyDtls_dtlsState hf) rfl rfl

/-- A DTLS transport that goes to another state tells the controller, which computes the aggregate
again. In the same state nothing is told, and nothing has changed. -/
theorem Aggregated.setDtlsState (h : Aggregated c) (state : DtlsTransportState) :
    Aggregated (DtlsTransport.setDtlsState ssl c name state) := by
  unfold DtlsTransport.setDtlsState
  split
  · exact h
  · -- the controller is told before the SRTP transport
    have hchannel : ∀ other, ((c.modifyDtls name fun d =>
        { d with dtlsState := state }).transports other).channel
          = (c.transports other).channel := modifyDtls_channel c name _
    have hupdated : Aggregated
        (c.modifyDtls name fun d => { d with dtlsState := state }).updateState := by
      refine Aggregated.updateState ?_ fun other => ?_
      · show c.iceState = _
        rw [h.iceState]
        symm
        apply computeIceState_congr
        · rfl
        · intro other
          rw [hchannel]
      · rw [hchannel]
        exact h.notClosed other
    -- the SRTP transport changes nothing that is counted
    have hsame : ∀ c : TransportController, Aggregated c →
        Aggregated (DtlsSrtpTransport.onDtlsState ssl c name state) := by
      intro c hc
      refine hc.congr (onDtlsState_names ssl c name state) (fun other => ?_)
        (fun other => by rw [onDtlsState_dtls]) ?_ ?_
      · rw [onDtlsState_channel]
      all_goals
        obtain ⟨srtp, calls, heq⟩ := onDtlsState_eq ssl c name state
        rw [heq]
        rfl
    exact hsame _ hupdated

/-- Every action of a transport keeps the aggregates up to date. -/
theorem aggregated_of_action (haction : Action ssl name c c') (h : Aggregated c) :
    Aggregated c' := by
  cases haction with
  | record => exact h.congr rfl (fun _ => rfl) (fun _ => rfl) rfl rfl
  | change f hstate => exact h.modifyDtls hstate
  | notify => exact Aggregated.updateState h.iceState h.notClosed
  | setDtlsState state => exact h.setDtlsState state
  | create => exact h.modifyDtls rfl
  | restart =>
      refine Aggregated.setDtlsState ?_ .new
      exact h.modifyDtls rfl

/-- So do actions, by induction on their sequence: each one that changes a state is followed by
`_update_state`. -/
theorem aggregated_of_actions (hactions : Actions ssl name c c') (h : Aggregated c) :
    Aggregated c' :=
  preserved_of_reflTransGen (P := Aggregated) (fun _ _ => aggregated_of_action) hactions h

/-! ### Channels -/

/-- A change of a transport that keeps both of its states leaves the controller aggregated. -/
theorem Aggregated.modify (h : Aggregated c) {f : Transport → Transport}
    (hice : (f (c.transports name)).channel.state = (c.transports name).channel.state)
    (hdtls : (f (c.transports name)).dtls = (c.transports name).dtls) :
    Aggregated (c.modify name f) := by
  refine h.congr rfl (fun other => ?_) (fun other => ?_) rfl rfl
  all_goals
    by_cases hne : other = name
    · subst hne
      rw [modify_self]
      first
        | exact hice
        | rw [hdtls]
    · rw [modify_of_ne _ _ _ hne]

/-- A channel that becomes writable finds the agent right already. -/
theorem Aggregated.setWritable (h : Aggregated c) (writable : Bool) :
    Aggregated (IceChannel.setWritable ssl c name writable) ∧
      (IceChannel.setWritable ssl c name writable).names = c.names := by
  unfold IceChannel.setWritable
  split
  · exact ⟨h, rfl⟩
  · have hchannel : Aggregated (c.modify name fun t =>
        let hasBeenConnection := if writable then true else t.channel.hasBeenConnection
        { t with channel := { t.channel with hasBeenConnection, writable } }) := h.modify rfl rfl
    dsimp only
    rw [agentUpdateState_of_eq hchannel.iceState]
    have hactions : Actions ssl name (c.modify name fun t =>
        let hasBeenConnection := if writable then true else t.channel.hasBeenConnection
        { t with channel := { t.channel with hasBeenConnection, writable } }) _ :=
      actions_onWritableState ssl
    exact ⟨aggregated_of_actions hactions hchannel, hactions.names⟩

/-- Whether a channel receives has no part in the state. -/
theorem Aggregated.setReceiving (h : Aggregated c) (receiving : Bool) :
    Aggregated (IceChannel.setReceiving c name receiving) ∧
      (IceChannel.setReceiving c name receiving).names = c.names := by
  unfold IceChannel.setReceiving
  split
  · exact ⟨h, rfl⟩
  · have hchannel : Aggregated (c.modify name fun t =>
        { t with channel := { t.channel with receiving } }) := h.modify rfl rfl
    dsimp only
    rw [agentUpdateState_of_eq hchannel.iceState]
    unfold DtlsTransport.onReceivingState DtlsTransport.setReceiving
    split
    · exact ⟨hchannel, rfl⟩
    · rw [updateState_updateState]
      have hdtls : ∀ b, Aggregated ((c.modify name fun t =>
          { t with channel := { t.channel with receiving } }).modifyDtls name fun d =>
            { d with receiving := b }) := fun b => hchannel.modifyDtls rfl
      exact ⟨Aggregated.updateState (hdtls _).iceState (hdtls _).notClosed, updateState_names _⟩

/-- Channels that are in other states. Where the agent's aggregate stays the same, the
controller hears nothing and has nothing to change. -/
theorem Aggregated.agentUpdateState (h : Aggregated c) (hne : c'.names ≠ [])
    (hnames : c'.names = c.names)
    (hdtls : ∀ name, (c'.transports name).dtls.dtlsState = (c.transports name).dtls.dtlsState)
    (hiceState : c'.iceState = c.iceState) (hpcState : c'.pcState = c.pcState)
    (hclosed : ∀ name, (c'.transports name).channel.state ≠ .closed) :
    Aggregated (IceAgent.updateState c') := by
  by_cases hsame : c'.iceState = IceAgent.computeIceState c'
  · rw [agentUpdateState_of_eq hsame]
    refine ⟨hsame, ?_, hclosed⟩
    rw [hpcState, h.pcState]
    exact (computePcState_of_computeIceState hnames hdtls (iceStateCount_closed h.notClosed)
      (iceStateCount_closed hclosed) (by rw [← hsame, hiceState, h.iceState])).symm
  · obtain ⟨hnames', htransports, hiceState', hpcState'⟩ := agentUpdateState_of_ne hne hsame
    have htransport : ∀ name, (IceAgent.updateState c').transports name
        = c'.transports name := fun name => by rw [htransports]
    refine ⟨?_, ?_, fun name => by rw [htransport]; exact hclosed name⟩
    · rw [hiceState']
      exact (computeIceState_congr hnames' fun name => by rw [htransport]).symm
    · rw [hpcState']
      exact (computePcState_congr hnames' (fun name => by rw [htransport])
        fun name => by rw [htransport]).symm

/-- A channel that goes to another state. -/
theorem Aggregated.setState (h : Aggregated c) (hname : name ∈ c.names) {state : IceTransportState}
    (hstate : state ≠ .closed) : Aggregated (IceChannel.setState c name state) := by
  unfold IceChannel.setState
  split
  swap
  · exact h
  refine h.agentUpdateState (List.ne_nil_of_mem hname) rfl (fun other => ?_) rfl rfl fun other => ?_
  · by_cases hne : other = name
    · subst hne
      rw [modify_self]
    · rw [modify_of_ne _ _ _ hne]
  · by_cases hne : other = name
    · subst hne
      rw [modify_self]
      exact hstate
    · rw [modify_of_ne _ _ _ hne]
      exact h.notClosed other

/-- A channel that has computed its values anew. -/
theorem Aggregated.channelUpdateState (h : Aggregated c) (hname : name ∈ c.names)
    (writable receiving : Bool) {state : IceTransportState} (hstate : state ≠ .closed) :
    Aggregated (IceChannel.updateState ssl c name writable receiving state) := by
  obtain ⟨hwritable, hnames⟩ : Aggregated (IceChannel.setWritable ssl c name writable) ∧ _ :=
    h.setWritable writable
  obtain ⟨hreceiving, hnames'⟩ : Aggregated (IceChannel.setReceiving _ name receiving) ∧ _ :=
    hwritable.setReceiving receiving
  exact hreceiving.setState (by rw [hnames', hnames]; exact hname) hstate

/-! ### Runs -/

/-- What happens to the transport of a name: an event, or a DTLS state that comes from
anywhere. -/
inductive Change where
  | event (e : Event)
  | dtlsState (state : DtlsTransportState)

/-- The state after a change at the transport of a name, if there is one. -/
def change (ssl : SslAdapter) (c : TransportController) (x : Bytes × Change) :
    TransportController :=
  match x.2 with
  | .event e => step ssl c (x.1, e)
  | .dtlsState state =>
      if c.names.contains x.1 then DtlsTransport.setDtlsState ssl c x.1 state else c

/-- A change that does not close a channel: no channel computes this state. -/
def Change.KeepsOpen : Change → Prop
  | .event (.iceChannel _ _ state) => state ≠ .closed
  | _ => True

/-- Every change of a transport leaves the controller aggregated, as long as no channel is closed.
-/
theorem aggregated_change (h : Aggregated c) (x : Bytes × Change) (hopen : x.2.KeepsOpen) :
    Aggregated (change ssl c x) := by
  obtain ⟨name, x⟩ := x
  unfold change step
  dsimp only
  cases x with
  | dtlsState state =>
      dsimp only
      split
      · exact h.setDtlsState state
      · exact h
  | event e =>
      dsimp only
      split
      swap
      · exact h
      rename_i hname
      cases e with
      | iceChannel writable receiving state => exact h.channelUpdateState hname _ _ hopen
      | readPacket buf ts => exact aggregated_of_actions (actions_onReadPacket ssl buf ts) h
      | dtlsEvent e =>
          show Aggregated (if (c.transports name).dtls.dtls.isSome then
            DtlsTransport.onDtlsEvent ssl c name e else c)
          split
          · rename_i hsome
            exact aggregated_of_actions (actions_onDtlsEvent ssl hsome e).1 h
          · exact h
      | setRemoteFingerprint digestAlg digest =>
          exact aggregated_of_actions (actions_setRemoteFingerprint ssl digestAlg digest) h

/-- Nothing has happened to the transports yet. -/
structure AllNew (c : TransportController) : Prop where
  transports : ∀ name, (c.transports name).channel.state = .new ∧
    (c.transports name).dtls.dtlsState = .new
  iceState : c.iceState = .new
  pcState : c.pcState = .new

/-- A controller whose transports are all new is in the state that is computed for them. Here
every count but that of the new ones is zero. -/
theorem AllNew.aggregated (h : AllNew c) : Aggregated c := by
  -- every transport is counted as new, in both tables
  have hice : ∀ state, c.iceStateCount state = if state = .new then c.names.length else 0 := by
    intro state
    unfold iceStateCount
    split
    · rename_i hnew
      rw [List.countP_eq_length]
      intro name _
      rw [(h.transports name).1, hnew]
      decide
    · rename_i hnew
      rw [List.countP_eq_zero]
      intro name _
      rw [(h.transports name).1]
      exact fun hstate => hnew (of_decide_eq_true hstate).symm
  have hdtls : ∀ state, c.dtlsStateCount state = if state = .new then c.names.length else 0 := by
    intro state
    unfold dtlsStateCount
    split
    · rename_i hnew
      rw [List.countP_eq_length]
      intro name _
      rw [(h.transports name).2, hnew]
      decide
    · rename_i hnew
      rw [List.countP_eq_zero]
      intro name _
      rw [(h.transports name).2]
      exact fun hstate => hnew (of_decide_eq_true hstate).symm
  refine ⟨?_, ?_, fun name => by rw [(h.transports name).1]; decide⟩
  · rw [h.iceState]
    unfold IceAgent.computeIceState
    simp [hice]
  · rw [h.pcState]
    unfold computePcState
    simp [hice, hdtls, Nat.mul_two]

/-- A transport that is added is new. -/
theorem AllNew.addTransport (h : AllNew c) (mid : Bytes) : AllNew (c.addTransport mid) := by
  refine ⟨fun name => ?_, h.iceState, h.pcState⟩
  by_cases hne : name = mid
  · subst hne
    rw [addTransport_self]
    constructor
    · show (if name ∈ c.names then (c.transports name).channel else {}).state = _
      split
      · exact (h.transports name).1
      · rfl
    · exact setLocalCertificate_dtlsState {} c.localCertificate
  · rw [addTransport_of_ne c hne]
    exact h.transports name

/-- The transports that `set_local_description` makes are new. -/
theorem AllNew.addTransports (h : AllNew c) (mids : List Bytes) : AllNew (c.addTransports mids) := by
  unfold TransportController.addTransports
  induction mids generalizing c with
  | nil => exact h
  | cons mid mids ih => exact ih (h.addTransport mid)

/-- The state of the peer connection is the aggregate of its transports, whatever their
number and along every run. -/
theorem always_aggregated (ssl : SslAdapter) (certificate : Option Certificate)
    (mids : List Bytes) (xs : List (Bytes × Change)) (hopen : ∀ x ∈ xs, x.2.KeepsOpen) :
    Always (change ssl) (fun c => c.pcState = c.computePcState)
      ((freshController certificate).addTransports mids) xs := by
  have hfresh : AllNew (freshController certificate) := ⟨fun _ => ⟨rfl, rfl⟩, rfl, rfl⟩
  have hrun : Always (change ssl) Aggregated ((freshController certificate).addTransports mids) xs :=
    always_of_steps (fun _ x h hx => aggregated_change h x hx)
      (hfresh.addTransports mids).aggregated (steps_of_forall hopen)
  exact hrun.imp fun _ h => h.pcState

/-- An adapter that does all it is asked to do, and raises no event by itself. -/
def quietAdapter : SslAdapter where
  create := fun _ => true
  setPeerCertificateDigest := fun _ => .none
  setDtlsSrtpCryptoSuites := fun _ => true
  startSSL := fun _ => ([], 0)
  onRead := fun _ => []
  getDtlsSrtpCryptoSuite := fun _ => some 1
  exportKeyingMaterial := fun _ => true
  material := fun session len => Vector.replicate len (UInt8.ofNat session)
  srtp :=
    { init := fun _ _ => true
      cipherKeyLen := fun _ => some 30
      create := fun _ _ => true
      update := fun _ _ => true }

/-- Two channels, one of which connects, fails to keep its connection, and comes back. -/
def twoChannelChanges : List (Bytes × Change) :=
  [([1], .event (.iceChannel true true .connected)), ([2], .dtlsState .connecting),
    ([1], .event (.iceChannel false true .disconnected)), ([1], .dtlsState .connected),
    ([1], .event (.iceChannel true true .connected))]

/-- Two channels whose changes interleave: after each of them the state is the one that is
computed. -/
theorem twoChannels_aggregated :
    (∀ x ∈ twoChannelChanges, x.2.KeepsOpen) ∧
      Always (change quietAdapter) (fun c => c.pcState = c.computePcState)
        ((freshController (some 0)).addTransports [[1], [2]]) twoChannelChanges := by
  have hopen : ∀ x ∈ twoChannelChanges, x.2.KeepsOpen := by
    unfold twoChannelChanges Change.KeepsOpen
    simp
  exact ⟨hopen, always_aggregated quietAdapter (some 0) [[1], [2]] twoChannelChanges hopen⟩

end Xrtc.Proofs.Pc
