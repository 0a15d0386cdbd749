import Xrtc.Proofs.Pc.ConnectionState

/-!
# `Xrtc.Proofs.Pc.DtlsStart`: DTLS starts once

Three events can create the session of a `DtlsTransport`, an early `ClientHello`, the
fingerprint of the answer and a channel that gets writable, and `StartSSL` is tried at two
places. `dtls_starts_once` says that it is called at most once all the same, and what
`_handle_dtls_packet` is given: at the start the last `ClientHello` that came before it,
and later each DTLS packet that arrives while the handshake runs, once.

`callsOf` are the calls in the record of a controller. As long as the state is new there
are none, and the `ClientHello` in the cache is the last one received (`Waiting`). Once
DTLS has begun (`Begun`) `_maybe_start_dtls` is not called again, because nothing but a
second fingerprint takes the transport back to the state new. `progress_step` proves both
for one event, and what it calls.

The adapter does what it is asked to do and raises no event (`Succeeds`).
-/

set_option autoImplicit false

namespace Xrtc.Proofs.Pc

open Xrtc.Lib
open Xrtc.Pc
open Xrtc.Pc.TransportController
open Xrtc.Pc.DtlsTransport

/-- The calls of the adapter succeed, and none of them raises an event. -/
structure Succeeds (ssl : SslAdapter) : Prop where
  create : ∀ n, ssl.create n = true
  setPeerCertificateDigest : ∀ n, ssl.setPeerCertificateDigest n = .none
  setDtlsSrtpCryptoSuites : ∀ n, ssl.setDtlsSrtpCryptoSuites n = true
  startSSL : ∀ n, ssl.startSSL n = ([], 0)
  onRead : ∀ n, ssl.onRead n = []

/-! ### What was received and what is called -/

/-- The last `ClientHello` that the transport of a name got in the state new, after one more
event. -/
def keptHello (name : Bytes) (c : TransportController) (hello : Option Bytes) :
    Bytes × Event → Option Bytes
  | (other, .readPacket buf _) =>
      if other = name ∧ (c.transports name).dtls.dtlsState = .new ∧ isDtlsClientHelloPacket buf then
        some buf
      else hello
  | _ => hello

/-- The last `ClientHello` that the transport of a name gets in the state new in a run. -/
def lastHello (ssl : SslAdapter) (name : Bytes) (hello : Option Bytes) :
    TransportController → List (Bytes × Event) → Option Bytes
  | _, [] => hello
  | c, x :: xs => lastHello ssl name (keptHello name c hello x) (step ssl c x) xs

/-- A DTLS packet that arrives at a name while the handshake runs is given to
`_handle_dtls_packet`. -/
def arrival (name : Bytes) (c : TransportController) : Bytes × Event → List Entry
  | (other, .readPacket buf _) =>
      if other = name ∧ (c.transports name).dtls.dtlsState = .connecting ∧ isDtlsPacket buf then
        [.handlePacket name buf]
      else []
  | _ => []

/-- `StartSSL`, and right after it the `ClientHello` that has waited for it. -/
def startCalls (name : Bytes) (hello : Option Bytes) : List Entry :=
  .startSSL name :: hello.toList.map (.handlePacket name)

/-- What an event makes the transport of a name call, when `hello` is the last `ClientHello`
it got in the state new: before the start nothing or the start, and that only with a
writable channel, and from then on the packets that arrive. -/
def StepCalls (name : Bytes) (hello : Option Bytes) (c c' : TransportController)
    (x : Bytes × Event) : Prop :=
  ∃ calls, callsOf name c'.log = callsOf name c.log ++ calls ∧
    ((c.transports name).dtls.dtlsState = .new →
      calls = [] ∨ (c'.transports name).channel.writable = true ∧ calls = startCalls name hello) ∧
    ((c.transports name).dtls.dtlsState ≠ .new → calls = arrival name c x)

/-- What holds of a run: `StartSSL` is called at most once, between two events a
session on a writable channel has been started, and every event calls what it should. -/
structure StartsOnce (ssl : SslAdapter) (name : Bytes) (c : TransportController)
    (xs : List (Bytes × Event)) : Prop where
  once : (callsOf name (run (step ssl) c xs).log).count (.startSSL name) ≤ 1
  started : Always (step ssl) (fun c =>
    (c.transports name).dtls.dtls.isSome → (c.transports name).channel.writable = true →
      (c.transports name).dtls.dtlsState ≠ .new) c xs
  calls : ∀ before x after, xs = before ++ x :: after →
    StepCalls name (lastHello ssl name none c (before ++ [x])) (run (step ssl) c before)
      (run (step ssl) c (before ++ [x])) x

/-! ### The other transports -/

/-- A change that leaves the transport of a name alone and records no call of it. -/
structure Undisturbed (name : Bytes) (c c' : TransportController) : Prop where
  names : c'.names = c.names
  transport : c'.transports name = c.transports name
  calls : callsOf name c'.log = callsOf name c.log

section

variable {ssl : SslAdapter} {c c' c'' : TransportController} {name other : Bytes}

/-- What leaves a transport undisturbed twice leaves it undisturbed. -/
theorem Undisturbed.trans (h : Undisturbed name c c') (h' : Undisturbed name c' c'') :
    Undisturbed name c c'' :=
  ⟨h'.names.trans h.names, h'.transport.trans h.transport, h'.calls.trans h.calls⟩

/-- The actions of another transport disturb nobody else. -/
theorem undisturbed_of_actions (h : Actions ssl other c c') (hne : name ≠ other) :
    Undisturbed name c c' := by
  induction h with
  | refl => exact ⟨rfl, rfl, rfl⟩
  | tail _ hlast ih =>
      exact ih.trans ⟨hlast.names, hlast.transports_of_ne hne, hlast.callsOf_of_ne hne⟩

/-- Another channel changes, and the agent is told. -/
theorem undisturbed_channel (c : TransportController) (f : Transport → Transport)
    (hne : name ≠ other) : Undisturbed name c (IceAgent.updateState (c.modify other f)) where
  names := agentUpdateState_names _
  transport := by rw [agentUpdateState_transports, modify_of_ne _ _ _ hne]
  calls := callsOf_agentUpdateState name _

/-- Nor does `_update_state` of the channel of another one, although its signals go through the
controller and the agent. -/
theorem undisturbed_channelUpdateState (hne : name ≠ other) (writable receiving : Bool)
    (state : Xrtc.Ice.IceTransportState) :
    Undisturbed name c (IceChannel.updateState ssl c other writable receiving state) := by
  have hwritable : ∀ c, Undisturbed name c (IceChannel.setWritable ssl c other writable) := by
    intro c
    unfold IceChannel.setWritable
    split
    · exact ⟨rfl, rfl, rfl⟩
    · exact (undisturbed_channel c _ hne).trans
        (undisturbed_of_actions (actions_onWritableState ssl) hne)
  have hreceiving : ∀ c, Undisturbed name c (IceChannel.setReceiving c other receiving) := by
    intro c
    unfold IceChannel.setReceiving
    split
    · exact ⟨rfl, rfl, rfl⟩
    · exact (undisturbed_channel c _ hne).trans
        (undisturbed_of_actions (actions_onReceivingState ssl) hne)
  have hstate : ∀ c, Undisturbed name c (IceChannel.setState c other state) := by
    intro c
    unfold IceChannel.setState
    split
    · exact undisturbed_channel c _ hne
    · exact ⟨rfl, rfl, rfl⟩
  exact ((hwritable c).trans (hreceiving _)).trans (hstate _)

/-- An event at another name. -/
theorem undisturbed_step (ssl : SslAdapter) (c : TransportController) (x : Bytes × Event)
    (hne : x.1 ≠ name) :
    Undisturbed name c (step ssl c x) := by
  obtain ⟨other, e⟩ := x
  have hname : name ≠ other := Ne.symm hne
  unfold step
  dsimp only
  split
  swap
  · exact ⟨rfl, rfl, rfl⟩
  cases e with
  | iceChannel writable receiving state => exact undisturbed_channelUpdateState hname _ _ _
  | readPacket buf ts => exact undisturbed_of_actions (actions_onReadPacket ssl buf ts) hname
  | dtlsEvent e =>
      show Undisturbed name c (if (c.transports other).dtls.dtls.isSome then
        DtlsTransport.onDtlsEvent ssl c other e else c)
      split
      · rename_i hsome
        exact undisturbed_of_actions (actions_onDtlsEvent ssl hsome e).1 hname
      · exact ⟨rfl, rfl, rfl⟩
  | setRemoteFingerprint digestAlg digest =>
      exact undisturbed_of_actions (actions_setRemoteFingerprint ssl digestAlg digest) hname

end

/-! ### The methods of the transport -/

/-- What a method has done at the transport of a name: the DTLS transport is `d`, and
`calls` have been called. The channel is as before. -/
structure Did (name : Bytes) (c c' : TransportController) (d : DtlsTransport)
    (calls : List Entry) : Prop where
  names : c'.names = c.names
  writable : (c'.transports name).channel.writable = (c.transports name).channel.writable
  dtls : (c'.transports name).dtls = d
  calls : callsOf name c'.log = callsOf name c.log ++ calls

section

variable {ssl : SslAdapter} {c c' c'' : TransportController} {name : Bytes} {d d' : DtlsTransport}
  {calls calls' : List Entry}

/-- Two steps one after the other have made the calls of both, in that order. -/
theorem Did.trans (h : Did name c c' d calls) (h' : Did name c' c'' d' calls') :
    Did name c c'' d' (calls ++ calls') where
  names := h'.names.trans h.names
  writable := h'.writable.trans h.writable
  dtls := h'.dtls
  calls := by rw [h'.calls, h.calls, List.append_assoc]

/-- A method that does nothing. -/
theorem did_nothing (name : Bytes) (c : TransportController) :
    Did name c c (c.transports name).dtls [] :=
  ⟨rfl, rfl, rfl, (List.append_nil _).symm⟩

/-- A change of the DTLS transport calls nobody. -/
theorem did_modifyDtls (name : Bytes) (c : TransportController) (f : DtlsTransport → DtlsTransport) :
    Did name c (c.modifyDtls name f) (f (c.transports name).dtls) [] where
  names := rfl
  writable := by rw [modifyDtls_channel]
  dtls := modifyDtls_dtls c name f
  calls := (List.append_nil _).symm

/-- `_update_state` of the controller calls no adapter and changes no transport. -/
theorem did_updateState (name : Bytes) (c : TransportController) :
    Did name c c.updateState (c.transports name).dtls [] where
  names := updateState_names c
  writable := by rw [updateState_transports]
  dtls := by rw [updateState_transports]
  calls := by rw [callsOf_updateState, List.append_nil]

/-- The channel changes, and the agent is told. -/
theorem did_channel (name : Bytes) (c : TransportController) (f : Transport → Transport)
    (hwritable : (f (c.transports name)).channel.writable = (c.transports name).channel.writable)
    (hdtls : (f (c.transports name)).dtls = (c.transports name).dtls) :
    Did name c (IceAgent.updateState (c.modify name f)) (c.transports name).dtls [] where
  names := agentUpdateState_names _
  writable := by rw [agentUpdateState_transports, modify_self, hwritable]
  dtls := by rw [agentUpdateState_transports, modify_self, hdtls]
  calls := by
    rw [callsOf_agentUpdateState, List.append_nil]
    rfl

/-- Setting the state calls no adapter. What it starts on the SRTP side leaves the DTLS transport
as it is. -/
theorem did_setDtlsState (ssl : SslAdapter) (name : Bytes) (c : TransportController)
    (state : DtlsTransportState) :
    Did name c (DtlsTransport.setDtlsState ssl c name state)
      { (c.transports name).dtls with dtlsState := state } [] where
  names := setDtlsState_names ssl c name state
  writable := by rw [setDtlsState_channel]
  dtls := setDtlsState_dtls ssl c name state
  calls := by rw [callsOf_setDtlsState, List.append_nil]

variable (hssl : Succeeds ssl)

include hssl

/-- A packet is given to the adapter, if its records are complete. -/
theorem did_handleDtlsPacket (name : Bytes) (c : TransportController) (data : Bytes) :
    Did name c (handleDtlsPacket ssl c name data).2 (c.transports name).dtls
      [.handlePacket name data] := by
  have hcalled : callsOf name (.handlePacket name data :: c.log)
      = callsOf name c.log ++ [.handlePacket name data] :=
    callsOf_cons c.log (decide_eq_true rfl)
  unfold handleDtlsPacket
  dsimp only
  split
  swap
  · exact ⟨rfl, rfl, rfl, hcalled⟩
  have hreceived : callsOf name (.receivedPacket name data :: .handlePacket name data :: c.log)
      = callsOf name c.log ++ [.handlePacket name data] :=
    (callsOf_cons_of_not _ rfl).trans hcalled
  unfold onReceivedPacket
  dsimp only
  rw [hssl.onRead]
  split
  · exact ⟨rfl, rfl, rfl, hreceived⟩
  · exact ⟨rfl, rfl, rfl, hreceived⟩

/-- The `ClientHello` in the cache is handled, and the cache is empty then. -/
theorem did_cachedClientHello (hdtls : (c.transports name).dtls = d)
    (hstate : d.dtlsState = .connecting) {hello : Option Bytes}
    (hcached : d.cachedClientHello = hello.getD []) (hne : hello ≠ some []) :
    ∃ state, (state = .connecting ∨ state = .failed) ∧
      Did name c
        (if (c.transports name).dtls.cachedClientHello.length ≠ 0 then
          let done := handleDtlsPacket ssl c name (c.transports name).dtls.cachedClientHello
          (if done.1 then done.2 else DtlsTransport.setDtlsState ssl done.2 name .failed).modifyDtls
            name fun d => { d with cachedClientHello := [] }
        else c)
        { d with dtlsState := state, cachedClientHello := [] }
        (hello.toList.map (.handlePacket name)) := by
  subst hdtls
  cases hello with
  | none =>
      -- nothing has waited
      rw [if_neg (by rw [hcached]; simp)]
      refine ⟨.connecting, .inl rfl, ?_⟩
      rw [show [] = (c.transports name).dtls.cachedClientHello from hcached.symm, ← hstate]
      exact did_nothing name c
  | some hello =>
      have hlength : (c.transports name).dtls.cachedClientHello.length ≠ 0 := by
        rw [hcached]
        exact fun h => hne (congrArg some (List.length_eq_zero_iff.mp h))
      have hhandled := did_handleDtlsPacket hssl name c hello
      rw [if_pos hlength, hcached]
      dsimp only [Option.getD_some]
      split
      · have hcleared := hhandled.trans
          (did_modifyDtls name _ fun d => { d with cachedClientHello := [] })
        rw [hhandled.dtls] at hcleared
        refine ⟨.connecting, .inl rfl, ?_⟩
        rw [← hstate]
        exact hcleared
      · have hfailed := hhandled.trans (did_setDtlsState ssl name _ .failed)
        rw [hhandled.dtls] at hfailed
        have hcleared := hfailed.trans
          (did_modifyDtls name _ fun d => { d with cachedClientHello := [] })
        rw [hfailed.dtls] at hcleared
        exact ⟨.failed, .inr rfl, hcleared⟩

/-- Where there is a session and a writable channel, DTLS starts, and the `ClientHello` in
the cache comes next. -/
theorem did_maybeStartDtls (hsome : (c.transports name).dtls.dtls.isSome)
    (hwritable : (c.transports name).channel.writable = true) {hello : Option Bytes}
    (hcached : (c.transports name).dtls.cachedClientHello = hello.getD []) (hne : hello ≠ some []) :
    ∃ state, (state = .connecting ∨ state = .failed) ∧
      Did name c (maybeStartDtls ssl c name)
        { (c.transports name).dtls with dtlsState := state, cachedClientHello := [] }
        (startCalls name hello) := by
  have hcalled : Did name c (c.push (.startSSL name)).tick (c.transports name).dtls
      [.startSSL name] :=
    ⟨rfl, rfl, rfl, callsOf_cons c.log (decide_eq_true rfl)⟩
  have hconnecting : Did name c
      (DtlsTransport.setDtlsState ssl (c.push (.startSSL name)).tick name .connecting)
      { (c.transports name).dtls with dtlsState := .connecting } [.startSSL name] :=
    hcalled.trans (did_setDtlsState ssl name _ .connecting)
  obtain ⟨state, hstate, hdid⟩ := did_cachedClientHello hssl hconnecting.dtls rfl hcached hne
  refine ⟨state, hstate, ?_⟩
  unfold maybeStartDtls
  rw [hssl.startSSL]
  dsimp only [onDtlsEvents, List.foldl_nil]
  rw [if_pos (by simp [hsome, hwritable]), if_neg (by simp)]
  exact hconnecting.trans hdid

omit hssl in
/-- What a method does that tries to start DTLS with the transport `d`: it starts DTLS if
the channel is writable. -/
def Tried (name : Bytes) (hello : Option Bytes) (c c' : TransportController)
    (d : DtlsTransport) : Prop :=
  ((c.transports name).channel.writable = false ∧ Did name c c' d []) ∨
    ((c.transports name).channel.writable = true ∧
      ∃ state, (state = .connecting ∨ state = .failed) ∧
        Did name c c' { d with dtlsState := state, cachedClientHello := [] } (startCalls name hello))

omit hssl in
/-- A try behind a method that calls nothing. -/
theorem Did.tried {hello : Option Bytes} (h : Did name c c' d []) (h' : Tried name hello c' c'' d') :
    Tried name hello c c'' d' := by
  rcases h' with ⟨hwritable, hdid⟩ | ⟨hwritable, state, hstate, hdid⟩
  · exact .inl ⟨h.writable.symm.trans hwritable, h.trans hdid⟩
  · exact .inr ⟨h.writable.symm.trans hwritable, state, hstate, h.trans hdid⟩

variable {hello : Option Bytes}

/-- `_maybe_start_dtls` with an adapter that is there: it starts it where the channel is writable,
and hands it the cached hello. Else it waits. -/
theorem tried_maybeStartDtls (hsome : (c.transports name).dtls.dtls.isSome)
    (hcached : (c.transports name).dtls.cachedClientHello = hello.getD []) (hne : hello ≠ some []) :
    Tried name hello c (maybeStartDtls ssl c name) (c.transports name).dtls := by
  cases hwritable : (c.transports name).channel.writable with
  | true => exact .inr ⟨hwritable, did_maybeStartDtls hssl hsome hwritable hcached hne⟩
  | false =>
      refine .inl ⟨hwritable, ?_⟩
      unfold maybeStartDtls
      dsimp only
      rw [if_neg (by simp [hwritable])]
      exact did_nothing name c

/-- `_setup_dtls` makes an adapter and tries to start it in the same way. -/
theorem tried_setupDtls (name : Bytes) (hello : Option Bytes)
    (hcached : (c.transports name).dtls.cachedClientHello = hello.getD [])
    (hne : hello ≠ some []) :
    (setupDtls ssl c name).1 = true ∧ ∃ session, Tried name hello c (setupDtls ssl c name).2
      { (c.transports name).dtls with dtls := some session } := by
  have hcreated : ∀ calls, Did name c
      (({ c with calls, sessions := c.sessions + 1 } : TransportController).modifyDtls name
        fun d => { d with dtls := some c.sessions })
      { (c.transports name).dtls with dtls := some c.sessions } [] := by
    intro calls
    exact ⟨rfl, by rw [modifyDtls_channel], modifyDtls_dtls _ name _, (List.append_nil _).symm⟩
  have hstart : ∀ calls, Tried name hello c
      (maybeStartDtls ssl
        (({ c with calls, sessions := c.sessions + 1 } : TransportController).modifyDtls name
          fun d => { d with dtls := some c.sessions }) name)
      { (c.transports name).dtls with dtls := some c.sessions } := by
    intro calls
    have hdtls := (hcreated calls).dtls
    have htried := tried_maybeStartDtls hssl
      (by rw [hdtls]; rfl) (by rw [hdtls]; exact hcached) hne
    rw [hdtls] at htried
    exact (hcreated calls).tried htried
  unfold setupDtls
  dsimp only
  rw [if_neg (by simp [hssl.create]), if_neg (by simp [hssl.setPeerCertificateDigest]),
    if_neg (by simp [hssl.setDtlsSrtpCryptoSuites])]
  exact ⟨rfl, c.sessions, hstart (c.calls + 1 + 1 + 1)⟩

end

/-! ### Progress -/

/-- DTLS has not begun: nothing has been called, the last `ClientHello` is in the cache, and
if there is a session it waits for the channel. -/
structure Waiting (name : Bytes) (hello : Option Bytes) (c : TransportController) : Prop where
  new : (c.transports name).dtls.dtlsState = .new
  cached : (c.transports name).dtls.cachedClientHello = hello.getD []
  calls : callsOf name c.log = []
  session : (c.transports name).dtls.dtls.isSome → (c.transports name).channel.writable = false

/-- DTLS has begun, once. -/
structure Begun (name : Bytes) (c : TransportController) : Prop where
  state : (c.transports name).dtls.dtlsState = .connecting ∨
    (c.transports name).dtls.dtlsState = .failed
  session : (c.transports name).dtls.dtls.isSome
  calls : (callsOf name c.log).count (.startSSL name) = 1

/-- How far the transport of a name has come: `hello` is the last `ClientHello` it got in the
state new, and `fingerprints` says how often it has got a fingerprint. -/
structure Progress (name : Bytes) (hello : Option Bytes) (fingerprints : Nat)
    (c : TransportController) : Prop where
  mem : name ∈ c.names
  active : (c.transports name).dtls.dtlsActive = true
  certificate : (c.transports name).dtls.localCertificate.isSome
  fingerprint : fingerprints = 0 → (c.transports name).dtls.remoteFingerprintValue = []
  hello_ne : hello ≠ some []
  phase : Waiting name hello c ∨ Begun name c

section

variable {ssl : SslAdapter} {c c' : TransportController} {name : Bytes} {d : DtlsTransport}
  {hello : Option Bytes} {fingerprints : Nat}

/-- With an adapter and a writable channel, DTLS has begun. -/
theorem Progress.started (h : Progress name hello fingerprints c)
    (hsome : (c.transports name).dtls.dtls.isSome)
    (hwritable : (c.transports name).channel.writable = true) :
    (c.transports name).dtls.dtlsState ≠ .new := by
  rcases h.phase with hwaiting | hbegun
  · rw [hwaiting.session hsome] at hwritable
    cases hwritable
  · rcases hbegun.state with hstate | hstate <;> simp [hstate]

/-- The adapter has been started once at most. -/
theorem Progress.once (h : Progress name hello fingerprints c) :
    (callsOf name c.log).count (.startSSL name) ≤ 1 := by
  rcases h.phase with hwaiting | hbegun
  · rw [hwaiting.calls]
    exact Nat.zero_le _
  · exact hbegun.calls.le

/-- The fields that a start leaves alone. -/
structure Settings (fingerprints : Nat) (d : DtlsTransport) : Prop where
  active : d.dtlsActive = true
  certificate : d.localCertificate.isSome
  fingerprint : fingerprints = 0 → d.remoteFingerprintValue = []

/-- A try in a state where DTLS has not begun. Either it starts, with the calls of a start and the
hello that was kept, or it calls nothing and waits on. -/
theorem progress_of_tried (hmem : name ∈ c.names) (hne : hello ≠ some [])
    (hcalls : callsOf name c.log = []) (htried : Tried name hello c c' d)
    (hsettings : Settings fingerprints d) (hnew : d.dtlsState = .new)
    (hcached : d.cachedClientHello = hello.getD []) (hsome : d.dtls.isSome) :
    Progress name hello fingerprints c' ∧
      ∃ calls, callsOf name c'.log = callsOf name c.log ++ calls ∧
        (calls = [] ∨ (c'.transports name).channel.writable = true ∧
          calls = startCalls name hello) := by
  rcases htried with ⟨hwritable, hdid⟩ | ⟨hwritable, state, hstate, hdid⟩
  · refine ⟨⟨hdid.names ▸ hmem, ?_, ?_, ?_, hne, .inl ⟨?_, ?_, ?_, ?_⟩⟩, [], hdid.calls, .inl rfl⟩
    · rw [hdid.dtls]; exact hsettings.active
    · rw [hdid.dtls]; exact hsettings.certificate
    · rw [hdid.dtls]; exact hsettings.fingerprint
    · rw [hdid.dtls]; exact hnew
    · rw [hdid.dtls]; exact hcached
    · rw [hdid.calls, hcalls]; rfl
    · exact fun _ => hdid.writable.trans hwritable
  · have hcount : (startCalls name hello).count (.startSSL name) = 1 := by
      cases hello <;> simp [startCalls]
    refine ⟨⟨hdid.names ▸ hmem, ?_, ?_, ?_, hne, .inr ⟨?_, ?_, ?_⟩⟩, _, hdid.calls,
      .inr ⟨hdid.writable.trans hwritable, rfl⟩⟩
    · rw [hdid.dtls]; exact hsettings.active
    · rw [hdid.dtls]; exact hsettings.certificate
    · rw [hdid.dtls]; exact hsettings.fingerprint
    · rw [hdid.dtls]; exact hstate
    · rw [hdid.dtls]; exact hsome
    · rw [hdid.calls, hcalls]
      exact hcount

/-- A method that changes neither the state nor the session. -/
theorem Progress.of_did (h : Progress name hello fingerprints c) {calls : List Entry}
    (hdid : Did name c c' d calls) {n : Nat} (hsettings : Settings n d)
    (hstate : d.dtlsState = (c.transports name).dtls.dtlsState)
    (hdtls : d.dtls = (c.transports name).dtls.dtls)
    (hcached : d.cachedClientHello = (c.transports name).dtls.cachedClientHello)
    (hcalls : calls.count (.startSSL name) = 0)
    (hwaiting : (c.transports name).dtls.dtlsState = .new → calls = []) :
    Progress name hello n c' := by
  refine ⟨hdid.names ▸ h.mem, ?_, ?_, ?_, h.hello_ne, ?_⟩
  · rw [hdid.dtls]; exact hsettings.active
  · rw [hdid.dtls]; exact hsettings.certificate
  · rw [hdid.dtls]; exact hsettings.fingerprint
  · refine h.phase.imp (fun hphase => ⟨?_, ?_, ?_, ?_⟩) fun hphase => ⟨?_, ?_, ?_⟩
    · rw [hdid.dtls, hstate]; exact hphase.new
    · rw [hdid.dtls, hcached]; exact hphase.cached
    · rw [hdid.calls, hphase.calls, hwaiting hphase.new]; rfl
    · rw [hdid.dtls, hdtls, hdid.writable]; exact hphase.session
    · rw [hdid.dtls, hstate]; exact hphase.state
    · rw [hdid.dtls, hdtls]; exact hphase.session
    · rw [hdid.calls, List.count_append, hphase.calls, hcalls]

/-- At every stage the transport has the settings of the fingerprints that were set. -/
theorem Progress.settings (h : Progress name hello fingerprints c) :
    Settings fingerprints (c.transports name).dtls :=
  ⟨h.active, h.certificate, h.fingerprint⟩

/-- A transport that has begun is not new any more. -/
theorem Begun.state_ne (h : Begun name c) : (c.transports name).dtls.dtlsState ≠ .new := by
  rcases h.state with hstate | hstate <;> simp [hstate]

/-- Nothing is called, and nothing that counts is changed. -/
theorem Progress.of_quiet (h : Progress name hello fingerprints c) (hdid : Did name c c' d [])
    (hsettings : Settings fingerprints d)
    (hstate : d.dtlsState = (c.transports name).dtls.dtlsState)
    (hdtls : d.dtls = (c.transports name).dtls.dtls)
    (hcached : d.cachedClientHello = (c.transports name).dtls.cachedClientHello) :
    Progress name hello fingerprints c' :=
  h.of_did hdid hsettings hstate hdtls hcached rfl fun _ => rfl

variable (hssl : Succeeds ssl)

include hssl

/-! ### Packets -/

/-- A packet before DTLS has begun. A client hello is kept, and may be the last thing that a start
waited for. Any other packet is dropped. -/
theorem Waiting.onReadPacket (h : Progress name hello fingerprints c) (hphase : Waiting name hello c)
    (buf : Bytes) (ts : Int) :
    Progress name (keptHello name c hello (name, .readPacket buf ts)) fingerprints
        (onReadPacket ssl c name buf ts) ∧
      ∃ calls, callsOf name (DtlsTransport.onReadPacket ssl c name buf ts).log
          = callsOf name c.log ++ calls ∧
        (calls = [] ∨
          ((DtlsTransport.onReadPacket ssl c name buf ts).transports name).channel.writable = true ∧
          calls = startCalls name (keptHello name c hello (name, .readPacket buf ts))) := by
  have hkept : keptHello name c hello (name, .readPacket buf ts)
      = if isDtlsClientHelloPacket buf then some buf else hello := by
    simp [keptHello, hphase.new]
  rw [hkept]
  unfold DtlsTransport.onReadPacket
  dsimp only
  rw [hphase.new]
  dsimp only
  split
  swap
  · -- any other packet is dropped
    exact ⟨h, [], (List.append_nil _).symm, .inl rfl⟩
  rename_i hhello
  have hne : some buf ≠ some [] := by
    intro heq
    cases heq
    revert hhello
    decide
  have hcached := did_modifyDtls name c fun d => { d with cachedClientHello := buf }
  split
  · -- the first packet makes the session
    obtain ⟨-, session, htried⟩ := tried_setupDtls hssl
      (c := c.modifyDtls name fun d => { d with cachedClientHello := buf }) name (some buf)
      (by rw [hcached.dtls]; rfl) hne
    rw [hcached.dtls] at htried
    exact progress_of_tried h.mem hne hphase.calls (hcached.tried htried)
      ⟨h.active, h.certificate, h.fingerprint⟩ hphase.new rfl rfl
  · -- there is a session, which waits for the channel to be writable
    rename_i hsome
    have hsession : (c.transports name).dtls.dtls.isSome := by
      by_contra hnone
      exact hsome ⟨by simpa using hnone, h.certificate⟩
    exact progress_of_tried h.mem hne hphase.calls (.inl ⟨hphase.session hsession, hcached⟩)
      ⟨h.active, h.certificate, h.fingerprint⟩ hphase.new rfl hsession

/-- A packet when DTLS has begun goes to the adapter if it is one of DTLS. It cannot start
anything again. -/
theorem Begun.onReadPacket (h : Progress name hello fingerprints c) (hphase : Begun name c)
    (buf : Bytes) (ts : Int) :
    Progress name (keptHello name c hello (name, .readPacket buf ts)) fingerprints
        (DtlsTransport.onReadPacket ssl c name buf ts) ∧
      callsOf name (DtlsTransport.onReadPacket ssl c name buf ts).log
        = callsOf name c.log ++ arrival name c (name, .readPacket buf ts) := by
  have hkept : keptHello name c hello (name, .readPacket buf ts) = hello := by
    simp [keptHello, hphase.state_ne]
  rw [hkept]
  unfold DtlsTransport.onReadPacket arrival
  dsimp only
  rcases hphase.state with hstate | hstate
  · rw [hstate]
    dsimp only
    split
    · rename_i hpacket
      have hdid := did_handleDtlsPacket hssl name c buf
      rw [if_pos ⟨rfl, rfl, hpacket⟩]
      exact ⟨h.of_did hdid h.settings rfl rfl rfl rfl fun hnew => absurd hnew hphase.state_ne,
        hdid.calls⟩
    · rename_i hpacket
      rw [if_pos (by simp), if_neg fun hand => hpacket hand.2.2]
      exact ⟨h, (List.append_nil _).symm⟩
  · rw [hstate]
    dsimp only
    rw [if_neg (by simp)]
    exact ⟨h, (List.append_nil _).symm⟩

/-! ### The channel -/

omit hssl in
/-- Whether the channel receives is no matter of the adapter. -/
theorem did_setReceiving (name : Bytes) (c : TransportController) (receiving : Bool) :
    ∃ receiving', Did name c (IceChannel.setReceiving c name receiving)
      { (c.transports name).dtls with receiving := receiving' } [] := by
  unfold IceChannel.setReceiving
  split
  · exact ⟨_, did_nothing name c⟩
  have htold := did_channel name c (fun t => { t with channel := { t.channel with receiving } })
    rfl rfl
  unfold DtlsTransport.onReceivingState DtlsTransport.setReceiving
  dsimp only
  split
  · exact ⟨_, htold⟩
  · -- the controller is told twice
    have hset := htold.trans (did_modifyDtls name _ fun d => { d with receiving })
    have htwice := (hset.trans (did_updateState name _)).trans (did_updateState name _)
    rw [updateState_transports, modifyDtls_dtls, htold.dtls] at htwice
    refine ⟨receiving, ?_⟩
    have hreceiving : ((IceAgent.updateState (c.modify name fun t =>
        { t with channel := { t.channel with receiving } })).transports name).channel.receiving
          = receiving := by
      rw [agentUpdateState_transports, modify_self]
    rw [hreceiving]
    exact htwice

omit hssl in
/-- Neither is the state of the channel. -/
theorem did_setState (name : Bytes) (c : TransportController) (state : Xrtc.Ice.IceTransportState) :
    Did name c (IceChannel.setState c name state) (c.transports name).dtls [] := by
  unfold IceChannel.setState
  split
  · exact did_channel name c (fun t => { t with channel := { t.channel with state } }) rfl rfl
  · exact did_nothing name c

omit hssl in
/-- What an event that is not a packet calls: nothing, or the start of DTLS. -/
def MayStart (name : Bytes) (hello : Option Bytes) (c c' : TransportController) : Prop :=
  ∃ calls, callsOf name c'.log = callsOf name c.log ++ calls ∧
    (calls = [] ∨ (c.transports name).dtls.dtlsState = .new ∧
      (c'.transports name).channel.writable = true ∧ calls = startCalls name hello)

omit hssl in
/-- A step behind the start that makes no call leaves it as it was. -/
theorem MayStart.of_did {c'' : TransportController} (h : MayStart name hello c c')
    (hdid : Did name c' c'' d []) : MayStart name hello c c'' := by
  obtain ⟨calls, hcalls, hstart⟩ := h
  refine ⟨calls, by rw [hdid.calls, hcalls, List.append_nil], hstart.imp_right fun hstart => ?_⟩
  rw [hdid.writable]
  exact hstart

/-- The channel becomes writable, or not any more: this is where a transport that has been waiting
starts its adapter. Each stage goes on to a stage, and the adapter is started only out of the one
that waits. -/
theorem Progress.setWritable (h : Progress name hello fingerprints c) (writable : Bool) :
    Progress name hello fingerprints (IceChannel.setWritable ssl c name writable) ∧
      MayStart name hello c (IceChannel.setWritable ssl c name writable) := by
  unfold IceChannel.setWritable
  split
  · exact ⟨h, [], (List.append_nil _).symm, .inl rfl⟩
  dsimp only
  -- the channel and the agent change first, and DTLS is not touched by them
  generalize hc' : IceAgent.updateState (c.modify name fun t =>
    { t with channel := { t.channel with
        hasBeenConnection := if writable = true then true else t.channel.hasBeenConnection
        writable } }) = c'
  have hnames : c'.names = c.names := by
    rw [← hc', agentUpdateState_names]
    rfl
  have hdtls : (c'.transports name).dtls = (c.transports name).dtls := by
    rw [← hc', agentUpdateState_transports, modify_self]
  have hcalls : callsOf name c'.log = callsOf name c.log := by
    rw [← hc', callsOf_agentUpdateState]
    rfl
  unfold onWritableState
  dsimp only
  rw [hdtls, h.active, if_neg (by simp)]
  have hrest : callsOf name c'.log = callsOf name c.log ++ [] := by rw [hcalls, List.append_nil]
  rcases h.phase with hphase | hphase
  · rw [hphase.new]
    dsimp only
    -- a new transport starts if it has its session, and otherwise goes on waiting
    by_cases hsome : (c.transports name).dtls.dtls.isSome
    · have htried := tried_maybeStartDtls hssl (c := c') (by rw [hdtls]; exact hsome)
        (by rw [hdtls]; exact hphase.cached) h.hello_ne
      rw [hdtls] at htried
      obtain ⟨hprogress, calls, hcalled, hstart⟩ := progress_of_tried (hnames ▸ h.mem) h.hello_ne
        (hcalls.trans hphase.calls) htried h.settings hphase.new hphase.cached hsome
      exact ⟨hprogress, calls, hcalls ▸ hcalled, hstart.imp_right fun hstart => ⟨hphase.new, hstart⟩⟩
    · unfold maybeStartDtls
      dsimp only
      rw [if_neg (by rw [hdtls]; simp [hsome])]
      refine ⟨⟨hnames ▸ h.mem, hdtls ▸ h.active, hdtls ▸ h.certificate, hdtls ▸ h.fingerprint,
        h.hello_ne, .inl ⟨hdtls ▸ hphase.new, hdtls ▸ hphase.cached, hcalls.trans hphase.calls, ?_⟩⟩,
        [], hrest, .inl rfl⟩
      rw [hdtls]
      exact fun h => absurd h hsome
  · have hprogress : Progress name hello fingerprints c' :=
      ⟨hnames ▸ h.mem, hdtls ▸ h.active, hdtls ▸ h.certificate, hdtls ▸ h.fingerprint,
        h.hello_ne, .inr ⟨hdtls ▸ hphase.state, hdtls ▸ hphase.session, hcalls ▸ hphase.calls⟩⟩
    -- it has started already
    rcases hphase.state with hstate | hstate <;>
      (rw [hstate]; exact ⟨hprogress, [], hrest, .inl rfl⟩)

/-- `_update_state` of the channel. -/
theorem Progress.channelUpdateState (h : Progress name hello fingerprints c)
    (writable receiving : Bool) (state : Xrtc.Ice.IceTransportState) :
    Progress name hello fingerprints
        (IceChannel.updateState ssl c name writable receiving state) ∧
      MayStart name hello c (IceChannel.updateState ssl c name writable receiving state) := by
  obtain ⟨hwritable, hstart⟩ := h.setWritable hssl writable
  unfold IceChannel.updateState
  generalize IceChannel.setWritable ssl c name writable = c₁ at hwritable hstart ⊢
  obtain ⟨receiving', hdid⟩ := did_setReceiving name c₁ receiving
  have hsettings := hwritable.settings
  have hreceiving := hwritable.of_quiet hdid
    ⟨hsettings.active, hsettings.certificate, hsettings.fingerprint⟩ rfl rfl rfl
  generalize IceChannel.setReceiving c₁ name receiving = c₂ at hdid hreceiving ⊢
  have hdid' := did_setState name c₂ state
  exact ⟨hreceiving.of_quiet hdid' hreceiving.settings rfl rfl rfl, (hstart.of_did hdid).of_did hdid'⟩

/-! ### The fingerprint -/

/-- The first fingerprint. It is handed to the session if there is one, and otherwise a session is
set up with it, which may start at once. -/
theorem Progress.setRemoteFingerprint (h : Progress name hello 0 c) {digestAlg digest : Bytes}
    (hdigestAlg : digestAlg ≠ []) (hdigest : digest ≠ []) :
    Progress name hello 1 (setRemoteFingerprint ssl c name digestAlg digest).2 ∧
      MayStart name hello c (DtlsTransport.setRemoteFingerprint ssl c name digestAlg digest).2 := by
  have hvalue := h.fingerprint rfl
  have hset := did_modifyDtls name c fun d =>
    { d with remoteFingerprintValue := digest, remoteFingerprintAlg := digestAlg }
  have hsettings : Settings 1
      { (c.transports name).dtls with
          remoteFingerprintValue := digest, remoteFingerprintAlg := digestAlg } :=
    ⟨h.active, h.certificate, nofun⟩
  unfold DtlsTransport.setRemoteFingerprint
  dsimp only
  rw [if_neg (by simp [hvalue, hdigest.symm]), if_neg hdigestAlg, if_neg (by simp [h.active])]
  rw [hvalue, hssl.setPeerCertificateDigest]
  simp only [List.length_nil, gt_iff_lt, Nat.lt_irrefl, decide_false, Bool.not_false,
    Bool.and_true, Bool.and_false, Bool.false_eq_true, if_false, ne_eq, not_true_eq_false]
  split
  · -- the session is told
    rename_i hsome
    have hticked : Did name c (c.modifyDtls name fun d =>
        { d with remoteFingerprintValue := digest, remoteFingerprintAlg := digestAlg }).tick _ [] :=
      ⟨hset.names, hset.writable, hset.dtls, hset.calls⟩
    exact ⟨h.of_did hticked hsettings rfl rfl rfl rfl fun _ => rfl, [], hticked.calls, .inl rfl⟩
  · -- there is no session yet, so this makes one
    rename_i hnone
    have hphase : Waiting name hello c := h.phase.resolve_right fun hbegun => hnone hbegun.session
    obtain ⟨hdone, session, htried⟩ := tried_setupDtls hssl
      (c := c.modifyDtls name fun d =>
        { d with remoteFingerprintValue := digest, remoteFingerprintAlg := digestAlg }) name hello
      (by rw [hset.dtls]; exact hphase.cached) h.hello_ne
    rw [hset.dtls] at htried
    rw [hdone, if_neg (by simp)]
    have hcreated : Settings 1
        { (c.transports name).dtls with
            remoteFingerprintValue := digest, remoteFingerprintAlg := digestAlg
            dtls := some session } :=
      ⟨h.active, h.certificate, nofun⟩
    obtain ⟨hprogress, calls, hcalled, hstart⟩ := progress_of_tried h.mem h.hello_ne hphase.calls
      (hset.tried htried) hcreated hphase.new hphase.cached rfl
    exact ⟨hprogress, calls, hcalled, hstart.imp_right fun hstart => ⟨hphase.new, hstart⟩⟩

end

/-! ### Runs -/

/-- A fingerprint for the transport of a name. -/
def SetsFingerprint (name : Bytes) : Bytes × Event → Bool
  | (other, .setRemoteFingerprint _ _) => other = name
  | _ => false

/-- What can happen at the transport of a name: its adapter raises no event, and a fingerprint
has an algorithm and a digest. -/
def Expected (name : Bytes) : Bytes × Event → Prop
  | (other, .dtlsEvent _) => other ≠ name
  | (other, .setRemoteFingerprint digestAlg digest) => other = name → digestAlg ≠ [] ∧ digest ≠ []
  | _ => True

section

variable {ssl : SslAdapter} {c : TransportController} {name : Bytes} {hello : Option Bytes}
  {fingerprints : Nat}

/-- An event at another name. -/
theorem Progress.of_undisturbed {c' : TransportController} (h : Progress name hello fingerprints c)
    (hsame : Undisturbed name c c') : Progress name hello fingerprints c' := by
  obtain ⟨hnames, htransport, hcalls⟩ := hsame
  refine ⟨hnames ▸ h.mem, htransport ▸ h.active, htransport ▸ h.certificate,
    htransport ▸ h.fingerprint, h.hello_ne, ?_⟩
  refine h.phase.imp (fun hphase => ?_) fun hphase => ?_
  · exact ⟨htransport ▸ hphase.new, htransport ▸ hphase.cached, hcalls.trans hphase.calls,
      htransport ▸ hphase.session⟩
  · exact ⟨htransport ▸ hphase.state, htransport ▸ hphase.session, hcalls ▸ hphase.calls⟩

/-- The calls of an event that is not a packet for the transport of the name. -/
theorem stepCalls_of_mayStart {c' : TransportController} {x : Bytes × Event}
    (h : MayStart name hello c c') (harrival : arrival name c x = []) :
    StepCalls name hello c c' x := by
  obtain ⟨calls, hcalls, hstart⟩ := h
  refine ⟨calls, hcalls, fun _ => hstart.imp_right And.right, fun hne => ?_⟩
  rw [harrival]
  exact hstart.resolve_right fun hstart => hne hstart.1

/-- One event. The cases are those of the event, each in the phases that the transport may be in:
waiting for something, or begun. -/
theorem progress_step (hssl : Succeeds ssl) (h : Progress name hello fingerprints c)
    {x : Bytes × Event} (hx : Expected name x)
    (hone : fingerprints + (if SetsFingerprint name x then 1 else 0) ≤ 1) :
    Progress name (keptHello name c hello x)
        (fingerprints + if SetsFingerprint name x then 1 else 0) (step ssl c x) ∧
      StepCalls name (keptHello name c hello x) c (step ssl c x) x := by
  obtain ⟨other, e⟩ := x
  by_cases hname : other = name
  swap
  · -- an event at another name
    have hsame := undisturbed_step ssl c (other, e) hname
    have hkept : keptHello name c hello (other, e) = hello := by cases e <;> simp [keptHello, hname]
    have harrival : arrival name c (other, e) = [] := by cases e <;> simp [arrival, hname]
    have hcount : SetsFingerprint name (other, e) = false := by
      cases e <;> simp [SetsFingerprint, hname]
    rw [hkept, hcount]
    exact ⟨h.of_undisturbed hsame, stepCalls_of_mayStart
      ⟨[], by rw [hsame.calls, List.append_nil], .inl rfl⟩ harrival⟩
  subst hname
  have hstep : step ssl c (other, e) = handle ssl c other e := by
    unfold step
    exact if_pos h.mem
  rw [hstep]
  cases e with
  | iceChannel writable receiving state =>
      obtain ⟨hprogress, hstart⟩ := h.channelUpdateState hssl writable receiving state
      exact ⟨hprogress, stepCalls_of_mayStart hstart rfl⟩
  | readPacket buf ts =>
      -- a packet may be the client hello that is kept, or it goes to the session
      rcases h.phase with hphase | hphase
      · obtain ⟨hprogress, calls, hcalls, hstart⟩ := hphase.onReadPacket hssl h buf ts
        exact ⟨hprogress, calls, hcalls, fun _ => hstart, fun hne => absurd hphase.new hne⟩
      · obtain ⟨hprogress, hcalls⟩ := hphase.onReadPacket hssl h buf ts
        exact ⟨hprogress, _, hcalls, fun hnew => absurd hnew hphase.state_ne, fun _ => rfl⟩
  | dtlsEvent e => exact absurd rfl hx
  | setRemoteFingerprint digestAlg digest =>
      -- this is the only fingerprint of the run
      have hfirst : fingerprints = 0 := by
        simp only [SetsFingerprint, decide_true, if_true] at hone
        omega
      subst hfirst
      obtain ⟨hdigestAlg, hdigest⟩ := hx rfl
      obtain ⟨hprogress, hstart⟩ := h.setRemoteFingerprint hssl hdigestAlg hdigest
      simp only [SetsFingerprint, decide_true, if_true]
      exact ⟨hprogress, stepCalls_of_mayStart hstart rfl⟩

/-- The hello that is cached after two runs is that of the second one, which starts with what the
first has left. -/
theorem lastHello_append (xs ys : List (Bytes × Event)) :
    ∀ (hello : Option Bytes) (c : TransportController),
      lastHello ssl name hello c (xs ++ ys)
        = lastHello ssl name (lastHello ssl name hello c xs) (run (step ssl) c xs) ys := by
  induction xs with
  | nil => exact fun _ _ => rfl
  | cons x xs ih => exact fun _ _ => ih _ _

/-- A run. -/
theorem progress_run (hssl : Succeeds ssl) {xs : List (Bytes × Event)}
    (hxs : ∀ x ∈ xs, Expected name x) (h : Progress name hello fingerprints c)
    (hone : fingerprints + xs.countP (SetsFingerprint name) ≤ 1) :
    Progress name (lastHello ssl name hello c xs)
      (fingerprints + xs.countP (SetsFingerprint name)) (run (step ssl) c xs) := by
  induction xs generalizing c hello fingerprints with
  | nil => exact h
  | cons x xs ih =>
      rw [List.countP_cons] at hone ⊢
      obtain ⟨hx, hrest⟩ := List.forall_mem_cons.mp hxs
      have hstep := (progress_step hssl h hx (by omega)).1
      have hlast := ih hrest hstep (by omega)
      rw [Nat.add_comm (xs.countP _), ← Nat.add_assoc]
      exact hlast

/-- Between two events of a run. -/
theorem always_started (hssl : Succeeds ssl) {xs : List (Bytes × Event)}
    (hxs : ∀ x ∈ xs, Expected name x) (h : Progress name hello fingerprints c)
    (hone : fingerprints + xs.countP (SetsFingerprint name) ≤ 1) :
    Always (step ssl) (fun c =>
      (c.transports name).dtls.dtls.isSome → (c.transports name).channel.writable = true →
        (c.transports name).dtls.dtlsState ≠ .new) c xs := by
  induction xs generalizing c hello fingerprints with
  | nil => exact h.started
  | cons x xs ih =>
      rw [List.countP_cons] at hone
      obtain ⟨hx, hrest⟩ := List.forall_mem_cons.mp hxs
      exact ⟨h.started, ih hrest (progress_step hssl h hx (by omega)).1 (by omega)⟩

/-- A new transport with a certificate waits for the channel and the fingerprint, and its log has
no calls. -/
theorem progress_addTransports (certificate : Certificate) {mids : List Bytes}
    (hname : name ∈ mids) :
    Progress name none 0 ((freshController (some certificate)).addTransports mids) := by
  -- on the sections, of which some have been added already
  have hfresh : ∀ (mids : List Bytes) (c : TransportController),
      c.localCertificate = some certificate → c.log = [] →
      (name ∈ mids ∨ name ∈ c.names ∧
        (c.transports name).dtls = (DtlsTransport.setLocalCertificate {} (some certificate)).2) →
      name ∈ (c.addTransports mids).names ∧ (c.addTransports mids).log = [] ∧
        ((c.addTransports mids).transports name).dtls
          = (DtlsTransport.setLocalCertificate {} (some certificate)).2 := by
    intro mids
    induction mids with
    | nil =>
        intro c _ hlog h
        obtain ⟨hmem, hdtls⟩ := h.resolve_left List.not_mem_nil
        exact ⟨hmem, hlog, hdtls⟩
    | cons mid mids ih =>
        intro c hcertificate hlog h
        refine ih (c.addTransport mid) hcertificate hlog ?_
        by_cases hmid : name = mid
        · subst hmid
          refine .inr ⟨?_, ?_⟩
          · show name ∈ (if name ∈ c.names then c.names else c.names ++ [name])
            split <;> simp_all
          · rw [addTransport_self, hcertificate]
        · rcases h with h | ⟨hmem, hdtls⟩
          · exact .inl ((List.mem_cons.mp h).resolve_left hmid)
          · refine .inr ⟨?_, by rw [addTransport_of_ne c hmid]; exact hdtls⟩
            show name ∈ (if mid ∈ c.names then c.names else c.names ++ [mid])
            split <;> simp [hmem]
  obtain ⟨hmem, hlog, hdtls⟩ := hfresh mids (freshController (some certificate)) rfl rfl
    (.inl hname)
  refine ⟨hmem, ?_, ?_, ?_, nofun, .inl ⟨?_, ?_, ?_, ?_⟩⟩
  all_goals first | rw [hdtls] | rw [hlog]
  · rfl
  · rfl
  · exact fun _ => rfl
  · rfl
  · rfl
  · rfl
  · exact nofun

end

/-- For a transport with a certificate and along every run, whatever the order in which the
channel, the packets and the fingerprint come, DTLS starts at most once, is under way as soon as
the channel is writable and the fingerprint is there, and gets the client hello that was kept, if
one had come early. -/
theorem dtls_starts_once {ssl : SslAdapter} (hssl : Succeeds ssl) (certificate : Certificate)
    {mids : List Bytes} {name : Bytes} (hname : name ∈ mids) {xs : List (Bytes × Event)}
    (hxs : ∀ x ∈ xs, Expected name x) (hone : xs.countP (SetsFingerprint name) ≤ 1) :
    StartsOnce ssl name ((freshController (some certificate)).addTransports mids) xs := by
  have hfresh := progress_addTransports certificate hname
  have hcount : 0 + xs.countP (SetsFingerprint name) ≤ 1 := by omega
  refine ⟨(progress_run hssl hxs hfresh hcount).once, always_started hssl hxs hfresh hcount, ?_⟩
  intro before x after hsplit
  subst hsplit
  rw [List.countP_append, List.countP_cons] at hone
  have hbefore := progress_run hssl (fun y hy => hxs y (List.mem_append_left _ hy)) hfresh
    (by omega)
  have hx : Expected name x := hxs x (List.mem_append_right _ List.mem_cons_self)
  rw [lastHello_append, run_append]
  exact (progress_step hssl hbefore hx (by omega)).2

/-- The adapter of the example never fails. -/
theorem succeeds_quietAdapter : Succeeds quietAdapter :=
  ⟨fun _ => rfl, fun _ => rfl, fun _ => rfl, fun _ => rfl, fun _ => rfl⟩

/-- A record with a `ClientHello` in it. -/
def clientHello : Bytes := [22, 0xfe, 0xfd, 0, 0, 0, 0, 0, 0, 0, 0, 0, 5, 1, 0, 0, 0, 0]

/-- The `ClientHello` comes before the answer, and both before the channel is writable. -/
def earlyClientHello : List (Bytes × Event) :=
  [([1], .readPacket clientHello 0), ([1], .setRemoteFingerprint [2] [3]),
    ([1], .iceChannel true true .connected), ([1], .readPacket clientHello 1)]

/-- A client hello that comes before the fingerprint: DTLS starts once, when both are there. -/
theorem earlyClientHello_startsOnce :
    StartsOnce quietAdapter [1] ((freshController (some 0)).addTransports [[1]])
      earlyClientHello := by
  refine dtls_starts_once succeeds_quietAdapter 0 List.mem_cons_self ?_ (by decide)
  unfold earlyClientHello Expected
  simp

end Xrtc.Proofs.Pc
