import Xrtc.Lib.Run
import Xrtc.Pc.TransportController

/-!
# `Xrtc.Proofs.Pc.TransportActions`: what a method of a transport can do

Every method of a `DtlsTransport` is a sequence of a few kinds of actions (`Action`): it
records something, it changes a field that nobody watches, it tells the controller, it
moves to another DTLS state, it gets its first session, or it drops its session and starts
again. `actions_setupDtls`, `actions_onReadPacket` and the others prove this from the code
of each method, so that an invariant only has to be checked for each kind of action.

The adapter can raise events in the middle of a method. They never take the session away
(`onDtlsEvents_dtls`), and so the method goes on with the session it has begun with.
-/

set_option autoImplicit false

namespace Xrtc.Proofs.Pc

open Xrtc.Lib
open Xrtc.Pc
open Xrtc.Pc.TransportController
open Xrtc.Pc.DtlsTransport
open Xrtc.Pc.DtlsSrtpTransport
open Xrtc.Ice (IceTransportState)

variable (ssl : SslAdapter)

/-! ### What a change of the DTLS state leaves alone -/

section

variable (c : TransportController) (name : Bytes)

/-- A change that writes back what is there is none. -/
theorem modify_eq_self {f : Transport → Transport}
    (h : f (c.transports name) = c.transports name) : c.modify name f = c := by
  unfold TransportController.modify
  rw [h, Function.update_eq_self]

/-- A change of the DTLS transport of a name is found there. -/
theorem modifyDtls_dtls (f : DtlsTransport → DtlsTransport) :
    ((c.modifyDtls name f).transports name).dtls = f (c.transports name).dtls := by
  unfold modifyDtls
  rw [modify_self]

/-- The SRTP transport answers a new DTLS state with nothing but its own sessions. -/
theorem onDtlsState_eq (state : DtlsTransportState) :
    ∃ srtp calls, onDtlsState ssl c name state
      = { c.modify name fun t => { t with srtp } with calls } := by
  have hnone : ∀ calls, { c with calls } = { c.modify name fun t =>
      { t with srtp := (c.transports name).srtp } with calls } := by
    intro calls
    rw [modify_eq_self]
    rfl
  unfold onDtlsState
  split
  · exact ⟨(c.transports name).srtp.resetParams, c.calls, rfl⟩
  · unfold maybeSetupDtlsSrtp
    dsimp only
    split
    · exact ⟨_, _, hnone c.calls⟩
    · unfold setupDtlsSrtp
      dsimp only
      split
      · exact ⟨_, _, hnone (c.calls + 1)⟩
      · exact ⟨_, c.calls + 1, rfl⟩

variable (state : DtlsTransportState)

/-- A new DTLS state adds no transport and removes none. -/
@[simp] theorem onDtlsState_names : (onDtlsState ssl c name state).names = c.names := by
  obtain ⟨srtp, calls, h⟩ := onDtlsState_eq ssl c name state
  rw [h]
  rfl

/-- A new DTLS state of one transport leaves the other transports as they are. It changes the SRTP
transport of the same name only. -/
theorem onDtlsState_of_ne {other : Bytes} (hne : other ≠ name) :
    (onDtlsState ssl c name state).transports other = c.transports other := by
  obtain ⟨srtp, calls, h⟩ := onDtlsState_eq ssl c name state
  rw [h]
  exact Function.update_of_ne hne ..

/-- It changes no DTLS transport either, not even that of its name. -/
theorem onDtlsState_dtls (other : Bytes) :
    ((onDtlsState ssl c name state).transports other).dtls = (c.transports other).dtls := by
  by_cases hne : other = name
  · subst hne
    obtain ⟨srtp, calls, h⟩ := onDtlsState_eq ssl c other state
    rw [h]
    unfold TransportController.modify
    dsimp only
    rw [Function.update_self]
  · rw [onDtlsState_of_ne ssl _ _ _ hne]

/-- `_set_dtls_state` leaves everything else in the DTLS transport alone. -/
theorem setDtlsState_dtls :
    ((setDtlsState ssl c name state).transports name).dtls
      = { (c.transports name).dtls with dtlsState := state } := by
  unfold setDtlsState
  split
  · rename_i h
    rw [← h]
  · rw [onDtlsState_dtls, updateState_transports, modifyDtls_dtls]

/-- Setting the state adds no transport and removes none. -/
@[simp] theorem setDtlsState_names : (setDtlsState ssl c name state).names = c.names := by
  unfold setDtlsState
  split
  · rfl
  · simp [modifyDtls]

/-- A change of a transport that keeps its channel keeps all channels. -/
theorem modify_channel (f : Transport → Transport)
    (h : (f (c.transports name)).channel = (c.transports name).channel) (other : Bytes) :
    ((c.modify name f).transports other).channel = (c.transports other).channel := by
  by_cases hne : other = name
  · subst hne
    rw [modify_self, h]
  · rw [modify_of_ne _ _ _ hne]

/-- A change of a DTLS transport keeps all channels. -/
theorem modifyDtls_channel (f : DtlsTransport → DtlsTransport) (other : Bytes) :
    ((c.modifyDtls name f).transports other).channel = (c.transports other).channel :=
  modify_channel c name _ rfl other

/-- So does what a new DTLS state starts. -/
theorem onDtlsState_channel (other : Bytes) :
    ((onDtlsState ssl c name state).transports other).channel
      = (c.transports other).channel := by
  obtain ⟨srtp, calls, h⟩ := onDtlsState_eq ssl c name state
  rw [h]
  exact modify_channel c name (fun t => { t with srtp }) rfl other

/-- And so does setting the state, which ends in that. -/
theorem setDtlsState_channel (other : Bytes) :
    ((setDtlsState ssl c name state).transports other).channel
      = (c.transports other).channel := by
  unfold setDtlsState
  split
  · rfl
  · rw [onDtlsState_channel, updateState_transports, modifyDtls_channel]

/-- Setting the state of one transport leaves the others as they are. -/
theorem setDtlsState_of_ne {other : Bytes} (hne : other ≠ name) :
    (setDtlsState ssl c name state).transports other = c.transports other := by
  unfold setDtlsState
  split
  · rfl
  · rw [onDtlsState_of_ne ssl _ _ _ hne, updateState_transports]
    exact modify_of_ne _ _ _ hne

end

/-! ### New transports -/

/-- A controller with a certificate and no transport yet. -/
def freshController (certificate : Option Certificate) : TransportController :=
  { localCertificate := certificate }

/-- A certificate that is set changes no state. -/
theorem setLocalCertificate_dtlsState (d : DtlsTransport) (cert : Option Certificate) :
    (d.setLocalCertificate cert).2.dtlsState = d.dtlsState := by
  unfold DtlsTransport.setLocalCertificate
  split
  · rfl
  · split <;> rfl

/-- The new transport of a section: its channel is the one that is there already or a new one, and
the two transports on top are new. -/
theorem addTransport_self (c : TransportController) (mid : Bytes) :
    (c.addTransport mid).transports mid
      = { channel := if mid ∈ c.names then (c.transports mid).channel else {}
          dtls := (DtlsTransport.setLocalCertificate {} c.localCertificate).2 } :=
  Function.update_self ..

/-- The transports of other sections stay as they are. -/
theorem addTransport_of_ne (c : TransportController) {mid other : Bytes} (hne : other ≠ mid) :
    (c.addTransport mid).transports other = c.transports other :=
  Function.update_of_ne hne ..

/-! ### What the agent leaves alone -/

section

variable {α : Type} {f : TransportController → α}

/-- What the controller leaves alone when it is told, it leaves alone each time. -/
theorem signalIceState_eq_of (hupdate : ∀ c, f c.updateState = f c) (c : TransportController) :
    f (IceAgent.signalIceState c) = f c := by
  have hiterate : ∀ (n : Nat) (c : TransportController),
      f (TransportController.updateState^[n] c) = f c := by
    intro n
    induction n with
    | zero => exact fun _ => rfl
    | succ n ih =>
        intro c
        rw [Function.iterate_succ_apply, ih, hupdate]
  exact hiterate _ c

/-- The agent tells the controller and writes its own state. -/
theorem agentUpdateState_eq_of (hupdate : ∀ c, f c.updateState = f c)
    (hice : ∀ (c : TransportController) (iceState : IceTransportState),
      f { c with iceState } = f c) (c : TransportController) :
    f (IceAgent.updateState c) = f c := by
  unfold IceAgent.updateState
  dsimp only
  split
  · rw [signalIceState_eq_of hupdate, hice]
    split
    · exact signalIceState_eq_of hupdate c
    · rfl
  · rfl

end

section

variable (c : TransportController)

/-- `IceAgent::_update_state` reads the channels and changes no transport. -/
@[simp] theorem agentUpdateState_transports :
    (IceAgent.updateState c).transports = c.transports :=
  agentUpdateState_eq_of updateState_transports (fun _ _ => rfl) c

/-- It adds no transport and removes none. -/
@[simp] theorem agentUpdateState_names : (IceAgent.updateState c).names = c.names :=
  agentUpdateState_eq_of updateState_names (fun _ _ => rfl) c

end

/-! ### Calls -/

/-- An entry is a call of `StartSSL` or of `_handle_dtls_packet` at the transport of a name. -/
def IsCallOf (name : Bytes) : Entry → Bool
  | .startSSL other => other = name
  | .handlePacket other _ => other = name
  | _ => false

/-- These calls in a record, the first of them first. -/
def callsOf (name : Bytes) (log : List Entry) : List Entry := (log.filter (IsCallOf name)).reverse

section

variable {name : Bytes} {entry : Entry}

/-- The record has its latest entry first, and the calls are listed in the order they were made.
-/
theorem callsOf_cons (log : List Entry) (h : IsCallOf name entry = true) :
    callsOf name (entry :: log) = callsOf name log ++ [entry] := by
  simp [callsOf, h]

/-- Entries that are no calls of this transport do not count. -/
theorem callsOf_cons_of_not (log : List Entry) (h : IsCallOf name entry = false) :
    callsOf name (entry :: log) = callsOf name log := by
  simp [callsOf, h]

variable (c : TransportController) (name)

/-- The signals of the controller are no calls. -/
@[simp] theorem callsOf_updateState : callsOf name c.updateState.log = callsOf name c.log := by
  unfold TransportController.updateState
  dsimp only
  split
  · exact callsOf_cons_of_not c.log rfl
  · rfl

/-- The signals of the ICE agent are no calls. -/
@[simp] theorem callsOf_agentUpdateState :
    callsOf name (IceAgent.updateState c).log = callsOf name c.log :=
  agentUpdateState_eq_of (f := fun c => callsOf name c.log) (callsOf_updateState name)
    (fun _ _ => rfl) c

/-- Neither are the signals that a new DTLS state raises, whatever they start. -/
@[simp] theorem callsOf_setDtlsState (other : Bytes) (state : DtlsTransportState) :
    callsOf name (setDtlsState ssl c other state).log = callsOf name c.log := by
  unfold setDtlsState
  split
  · rfl
  · dsimp only
    obtain ⟨srtp, calls, h⟩ := onDtlsState_eq ssl
      (c.modifyDtls other fun d => { d with dtlsState := state }).updateState other state
    rw [h]
    exact callsOf_updateState name _

end

/-! ### Actions -/

/-- The kinds of things that happen to the transport of a name. -/
inductive Action (name : Bytes) : TransportController → TransportController → Prop where
  | record (c : TransportController) (calls sessions : Nat) (log : List Entry)
      (hlog : ∀ other, other ≠ name → callsOf other log = callsOf other c.log) :
      Action name c { c with calls, sessions, log }
  | change (c : TransportController) (f : DtlsTransport → DtlsTransport)
      (hstate : (f (c.transports name).dtls).dtlsState = (c.transports name).dtls.dtlsState)
      (hdtls : (f (c.transports name).dtls).dtls = (c.transports name).dtls.dtls) :
      Action name c (c.modifyDtls name f)
  | notify (c : TransportController) : Action name c c.updateState
  | setDtlsState (c : TransportController) (state : DtlsTransportState)
      (hconnected : state = .connected → (c.transports name).dtls.dtls.isSome) :
      Action name c (setDtlsState ssl c name state)
  | create (c : TransportController) (session : Session)
      (hnone : (c.transports name).dtls.dtls = none) :
      Action name c (c.modifyDtls name fun d => { d with dtls := some session })
  | restart (c : TransportController) :
      Action name c
        (DtlsTransport.setDtlsState ssl (c.modifyDtls name fun d => { d with dtls := none }) name
          .new)

/-- An entry of a name in the record. -/
theorem Action.push {name : Bytes} (c : TransportController) (calls : Nat) {entry : Entry}
    (h : ∀ other, other ≠ name → IsCallOf other entry = false) :
    Action ssl name c { c with calls, log := entry :: c.log } :=
  .record c calls c.sessions _ fun other hne => callsOf_cons_of_not c.log (h other hne)

/-- A sequence of actions. -/
abbrev Actions (name : Bytes) : TransportController → TransportController → Prop :=
  Relation.ReflTransGen (Action ssl name)

section

variable {ssl : SslAdapter} {c c' : TransportController} {name : Bytes}

/-- Actions neither add nor remove a transport. -/
theorem Action.names (h : Action ssl name c c') : c'.names = c.names := by
  cases h with
  | record | change | create => rfl
  | notify => exact updateState_names c
  | setDtlsState state => exact setDtlsState_names ssl c name state
  | restart => exact setDtlsState_names ssl _ name .new

/-- No sequence of actions adds a transport or removes one. -/
theorem Actions.names (h : Actions ssl name c c') : c'.names = c.names := by
  induction h with
  | refl => rfl
  | tail _ hlast ih => rw [hlast.names, ih]

/-- Actions leave the channels alone. -/
theorem Action.channel (h : Action ssl name c c') (other : Bytes) :
    (c'.transports other).channel = (c.transports other).channel := by
  cases h with
  | record => rfl
  | change | create => rw [modifyDtls_channel]
  | notify => rw [updateState_transports]
  | setDtlsState state => exact setDtlsState_channel ssl c name state other
  | restart => rw [setDtlsState_channel, modifyDtls_channel]

/-- No sequence of actions changes a channel, by induction on the sequence. -/
theorem Actions.channel (h : Actions ssl name c c') (other : Bytes) :
    (c'.transports other).channel = (c.transports other).channel := by
  induction h with
  | refl => rfl
  | tail _ hlast ih => rw [hlast.channel, ih]

/-- Actions of one transport record no call of another. -/
theorem Action.callsOf_of_ne (h : Action ssl name c c') {other : Bytes} (hne : other ≠ name) :
    callsOf other c'.log = callsOf other c.log := by
  cases h with
  | record calls sessions log hlog => exact hlog other hne
  | change | create => rfl
  | notify => exact callsOf_updateState other c
  | setDtlsState state => exact callsOf_setDtlsState ssl other c name state
  | restart => exact callsOf_setDtlsState ssl other _ name .new

/-- Actions of one transport leave the others alone. -/
theorem Action.transports_of_ne (h : Action ssl name c c') {other : Bytes} (hne : other ≠ name) :
    c'.transports other = c.transports other := by
  cases h with
  | record => rfl
  | change | create => exact modify_of_ne _ _ _ hne
  | notify => rw [updateState_transports]
  | setDtlsState state => exact setDtlsState_of_ne ssl c name state hne
  | restart =>
      rw [setDtlsState_of_ne ssl _ _ _ hne]
      exact modify_of_ne _ _ _ hne

end

section

variable (c : TransportController) (name : Bytes)

/-! ### Events of the adapter -/

/-- Whether a transport is writable has nothing to do with its adapter. -/
theorem setWritableState_dtls (writable : Bool) :
    ((setWritableState c name writable).transports name).dtls.dtls
      = (c.transports name).dtls.dtls := by
  unfold setWritableState
  rw [modifyDtls_dtls]

/-- The two changes at the end of a session, or at its beginning. -/
theorem actions_setWritableState (writable : Bool) (state : DtlsTransportState)
    (hconnected : state = .connected → (c.transports name).dtls.dtls.isSome) :
    Actions ssl name c
      (DtlsTransport.setDtlsState ssl (setWritableState c name writable) name state) := by
  refine .trans (.single (.change c _ rfl rfl)) (.single (.setDtlsState _ state ?_))
  intro h
  rw [modifyDtls_dtls]
  exact hconnected h

/-- A transport that ends keeps its adapter. -/
theorem ended_dtls (writable : Bool) (state : DtlsTransportState) :
    ((DtlsTransport.setDtlsState ssl (setWritableState c name writable) name state).transports
      name).dtls.dtls = (c.transports name).dtls.dtls := by
  rw [setDtlsState_dtls, setWritableState_dtls]

end

section

variable {c : TransportController} {name : Bytes}

/-- Actions that lead from one state to another and leave the session of the name. -/
def KeepsSession (name : Bytes) (c c' : TransportController) : Prop :=
  Actions ssl name c c' ∧ (c'.transports name).dtls.dtls = (c.transports name).dtls.dtls

/-- The flag and the state are written behind actions that leave the session. -/
theorem KeepsSession.ended {c' : TransportController} (h : KeepsSession ssl name c c')
    (writable : Bool) (state : DtlsTransportState)
    (hconnected : state = .connected → (c'.transports name).dtls.dtls.isSome) :
    KeepsSession ssl name c
      (DtlsTransport.setDtlsState ssl (setWritableState c' name writable) name state) :=
  ⟨h.1.trans (actions_setWritableState ssl c' name _ _ hconnected),
    (ended_dtls ssl c' name _ _).trans h.2⟩

/-- `signal_closed` behind actions that leave the session. -/
theorem KeepsSession.closed {c' : TransportController} (h : KeepsSession ssl name c c') :
    KeepsSession ssl name c (c'.push (.closed name)) :=
  ⟨h.1.tail (.push ssl c' c'.calls fun _ _ => rfl), h.2⟩

/-- An event of the adapter is a sequence of actions, and the session stays. -/
theorem actions_onDtlsEvent (h : (c.transports name).dtls.dtls.isSome) (e : SslEvent) :
    Actions ssl name c (onDtlsEvent ssl c name e) ∧
      ((onDtlsEvent ssl c name e).transports name).dtls.dtls = (c.transports name).dtls.dtls := by
  show KeepsSession ssl name c (onDtlsEvent ssl c name e)
  obtain ⟨opened, read, closed⟩ := e
  have hopened : KeepsSession ssl name c
      (if opened then DtlsTransport.setDtlsState ssl (setWritableState c name true) name .connected
        else c) := by
    have hrefl : KeepsSession ssl name c c := ⟨.refl, rfl⟩
    split
    · exact hrefl.ended ssl true _ fun _ => h
    · exact hrefl
  have hclosed : ∀ error : Int,
      (if error = 0 then DtlsTransportState.closed else .failed) ≠ .connected := by
    intro error
    split <;> simp
  unfold onDtlsEvent
  dsimp only
  generalize (if opened then DtlsTransport.setDtlsState ssl (setWritableState c name true) name
    .connected else c) = c₁ at hopened ⊢
  -- What the reads end in comes before the close.
  have heos := (hopened.ended ssl false .closed nofun).closed ssl
  have herror := (hopened.ended ssl false .failed nofun).closed ssl
  cases closed with
  | none =>
      cases read with
      | none => exact hopened
      | some read =>
          cases read with
          | block => exact hopened
          | eos => exact heos
          | error => exact herror
  | some error =>
      cases read with
      | none => exact hopened.ended ssl false _ fun heq => absurd heq (hclosed error)
      | some read =>
          cases read with
          | block => exact hopened.ended ssl false _ fun heq => absurd heq (hclosed error)
          | eos => exact heos.ended ssl false _ fun heq => absurd heq (hclosed error)
          | error => exact herror.ended ssl false _ fun heq => absurd heq (hclosed error)

/-- The events of an adapter, one after the other, take actions of its transport only. The adapter
is there for all of them, since no event takes it away. -/
theorem actions_onDtlsEvents (es : List SslEvent) {c : TransportController}
    (h : (c.transports name).dtls.dtls.isSome) :
    Actions ssl name c (onDtlsEvents ssl c name es) ∧
      ((onDtlsEvents ssl c name es).transports name).dtls.dtls
        = (c.transports name).dtls.dtls := by
  induction es generalizing c with
  | nil => exact ⟨.refl, rfl⟩
  | cons e es ih =>
      obtain ⟨hacts, hdtls⟩ := actions_onDtlsEvent ssl h e
      obtain ⟨hacts', hdtls'⟩ := ih (hdtls ▸ h)
      exact ⟨hacts.trans hacts', hdtls'.trans hdtls⟩

/-! ### Packets -/

/-- A packet with whole records goes to the adapter, whose events follow. Any other one goes
nowhere. -/
theorem actions_handleDtlsPacket (data : Bytes) :
    Actions ssl name c (handleDtlsPacket ssl c name data).2 := by
  have hcalled : Action ssl name c (c.push (.handlePacket name data)) :=
    .push ssl c c.calls fun _ hne => decide_eq_false hne.symm
  unfold handleDtlsPacket
  dsimp only
  split
  swap
  · exact .single hcalled
  have hrecord : Action ssl name (c.push (.handlePacket name data))
      ((c.push (.handlePacket name data)).push (.receivedPacket name data)).tick :=
    .push ssl _ _ fun _ _ => rfl
  unfold onReceivedPacket
  dsimp only
  split
  · rename_i hsome
    exact .head hcalled (.head hrecord (actions_onDtlsEvents ssl _ hsome).1)
  · exact .head hcalled (.single hrecord)

/-- `_maybe_start_dtls` as actions of its transport. Without a session, or on a channel that is
not writable, it does nothing. -/
theorem actions_maybeStartDtls : Actions ssl name c (maybeStartDtls ssl c name) := by
  unfold maybeStartDtls
  dsimp only
  split
  swap
  · exact .refl
  rename_i hstart
  have hsome : (c.transports name).dtls.dtls.isSome := (Bool.and_eq_true_iff.mp hstart).1
  -- the events in `StartSSL`
  have hrecord : Action ssl name c (c.push (.startSSL name)).tick :=
    .push ssl c (c.calls + 1) fun _ hne => decide_eq_false hne.symm
  obtain ⟨hevents, -⟩ :=
    actions_onDtlsEvents ssl (ssl.startSSL c.calls).1 (c := (c.push (.startSSL name)).tick) hsome
  have hstarted := Relation.ReflTransGen.head hrecord hevents
  split
  · exact hstarted.tail (.setDtlsState _ _ (by simp))
  · have hconnecting := hstarted.tail (.setDtlsState _ .connecting (by simp))
    split
    swap
    · exact hconnecting
    -- the `ClientHello` that has waited for the start
    refine Relation.ReflTransGen.tail ?_ (.change _ _ rfl rfl)
    have hhello := fun data => hconnecting.trans (actions_handleDtlsPacket ssl data)
    split
    · exact hhello _
    · exact (hhello _).tail (.setDtlsState _ _ (by simp))

/-- `_setup_dtls` is called where there is no session. -/
theorem actions_setupDtls (hnone : (c.transports name).dtls.dtls = none) :
    Actions ssl name c (setupDtls ssl c name).2 := by
  have hcreate : ∀ calls sessions session, Actions ssl name c
      (({ c with calls, sessions } : TransportController).modifyDtls name
        fun d => { d with dtls := some session }) := by
    intro calls sessions session
    exact .trans (.single (.record c calls sessions c.log fun _ _ => rfl))
      (.single (.create _ session hnone))
  unfold setupDtls
  dsimp only
  split
  · dsimp only
    exact .trans (.single (.record c (c.calls + 1) c.sessions c.log fun _ _ => rfl))
      (.single (.change _ _ rfl hnone.symm))
  · split
    · exact (hcreate _ _ _).tail (.record _ _ _ _ fun _ _ => rfl)
    · split
      · exact (hcreate _ _ _).tail (.record _ _ _ _ fun _ _ => rfl)
      · exact ((hcreate _ _ _).tail (.record _ _ _ _ fun _ _ => rfl)).trans (actions_maybeStartDtls ssl)

/-- A packet for the transport takes its actions, by the state of DTLS and the kind of the packet.
Each branch of `_on_read_packet` ends in one of the calls above, or in nothing. -/
theorem actions_onReadPacket (buf : Bytes) (ts : Int) :
    Actions ssl name c (onReadPacket ssl c name buf ts) := by
  -- what connecting and connected transports do
  have hreceived : Actions ssl name c
      (if isDtlsPacket buf then (handleDtlsPacket ssl c name buf).2
        else if (c.transports name).dtls.dtlsState ≠ .connected then c
        else if !isRtpPacket buf then c
        else c.push (.readPacket name buf ts)) := by
    split
    · exact actions_handleDtlsPacket ssl buf
    · split
      · exact .refl
      · split
        · exact .refl
        · exact .single (.push ssl c c.calls fun _ _ => rfl)
  unfold onReadPacket
  dsimp only
  split
  · -- before DTLS has started, a `ClientHello` is kept
    split
    swap
    · exact .refl
    have hcache : Action ssl name c (c.modifyDtls name fun d => { d with cachedClientHello := buf }) :=
      .change c _ rfl rfl
    split
    · rename_i hnone
      refine Relation.ReflTransGen.head hcache (actions_setupDtls ssl ?_)
      rw [modifyDtls_dtls]
      exact Option.isNone_iff_eq_none.mp hnone.1
    · exact .single hcache
  · exact hreceived
  · exact hreceived
  · exact .refl

/-! ### The channel and the fingerprint -/

/-- A change of the channel starts DTLS or makes the transport writable. It is an action of this
transport in each of its states. -/
theorem actions_onWritableState : Actions ssl name c (onWritableState ssl c name) := by
  have hwritable : Action ssl name c
      (c.modifyDtls name fun d => { d with writable := (c.transports name).channel.writable }) :=
    .change c _ rfl rfl
  unfold onWritableState
  dsimp only
  split
  · exact .single hwritable
  · split
    · exact actions_maybeStartDtls ssl
    · exact .single hwritable
    · exact .refl

/-- Whether the channel receives is taken over, and nothing is called. -/
theorem actions_onReceivingState : Actions ssl name c (onReceivingState c name) := by
  unfold onReceivingState DtlsTransport.setReceiving
  split
  · exact .refl
  · exact ((Relation.ReflTransGen.single (.change c _ rfl rfl)).tail (.notify _)).tail (.notify _)

/-- A fingerprint sets up DTLS, or is checked against the certificate of the peer if DTLS is
there. A fingerprint that has changed, or one without an algorithm, takes its own branch. -/
theorem actions_setRemoteFingerprint (digestAlg digest : Bytes) :
    Actions ssl name c (setRemoteFingerprint ssl c name digestAlg digest).2 := by
  unfold setRemoteFingerprint
  dsimp only
  split
  · exact .refl
  · split
    · dsimp only
      exact .single (.change c _ rfl rfl)
    · split
      · exact .refl
      · -- a new fingerprint
        have hdigest : Action ssl name c (c.modifyDtls name fun d =>
            { d with remoteFingerprintValue := digest, remoteFingerprintAlg := digestAlg }) :=
          .change c _ rfl rfl
        split
        · have hticked := (Relation.ReflTransGen.single hdigest).tail 
            (.record _ (c.calls + 1) c.sessions c.log fun _ _ => rfl)
          split
          · exact hticked.tail (.setDtlsState _ .failed (by simp))
          · exact hticked
        · rename_i hfirst
          -- an old session goes, and in any case there is none left
          have hsetup : ∀ c' : TransportController, Actions ssl name c c' →
              (c'.transports name).dtls.dtls = none →
              Actions ssl name c (if (!(setupDtls ssl c' name).1) = true
                then (false, DtlsTransport.setDtlsState ssl (setupDtls ssl c' name).2 name .failed)
                else (true, (setupDtls ssl c' name).2)).2 := by
            intro c' hacts hnone
            have hdone := hacts.trans (actions_setupDtls ssl hnone)
            split
            · exact hdone.tail (.setDtlsState _ .failed (by simp))
            · exact hdone
          split
          · refine hsetup _ (((Relation.ReflTransGen.single hdigest).tail (.restart _)).tail
              (.change _ _ rfl rfl)) ?_
            rw [setWritableState_dtls, setDtlsState_dtls, modifyDtls_dtls]
          · rename_i hold
            refine hsetup _ (.single hdigest) ?_
            rw [modifyDtls_dtls]
            cases hdtls : (c.transports name).dtls.dtls with
            | none => rfl
            | some session => simp_all

end

end Xrtc.Proofs.Pc
