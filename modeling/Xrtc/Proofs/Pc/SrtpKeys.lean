import Xrtc.Proofs.Pc.TransportActions

/-!
# `Xrtc.Proofs.Pc.SrtpKeys`: SRTP runs with the keys of the current session

A `DtlsSrtpTransport` creates its two sessions when its `DtlsTransport` is connected, from
material that the DTLS session exports, and it drops them when the `DtlsTransport` leaves
that state. `extractParams_eq_some` says how the material is cut, and
`setRtpParams_cases` that a failure in either direction leaves no session at all.

`Sound` is the invariant of one transport: it has no SRTP session, or it is connected and
both sessions hold the keys of its present DTLS session. `sound_of_action` checks it for
each kind of action, and `always_sound` is the consequence for every run and every answer
of the adapter.
-/

set_option autoImplicit false

namespace Xrtc.Proofs.Pc

open Xrtc.Lib
open Xrtc.Ice (IceTransportState)
open Xrtc.Pc
open Xrtc.Pc.TransportController
open Xrtc.Pc.DtlsTransport
open Xrtc.Pc.DtlsSrtpTransport

/-! ### The keys in the exported material -/

/-- The exported material, cut in four: a key of the client and one of the server, then a
salt of the client and one of the server. -/
structure ExportedKeys (material : Bytes) (keyLen saltLen : Nat) where
  clientKey : Bytes
  serverKey : Bytes
  clientSalt : Bytes
  serverSalt : Bytes
  clientKey_length : clientKey.length = keyLen
  serverKey_length : serverKey.length = keyLen
  clientSalt_length : clientSalt.length = saltLen
  serverSalt_length : serverSalt.length = saltLen
  material_eq : material = clientKey ++ serverKey ++ clientSalt ++ serverSalt

/-- A piece of a byte string and what is behind it. -/
theorem take_append_drop_add (l : Bytes) (i k : Nat) :
    (l.drop i).take k ++ l.drop (i + k) = l.drop i := by
  rw [← List.drop_drop, List.take_append_drop]

/-- Material of the right length is cut in one way. -/
def ExportedKeys.cut (material : Bytes) {keyLen saltLen : Nat}
    (h : material.length = keyLen * 2 + saltLen * 2) : ExportedKeys material keyLen saltLen where
  clientKey := material.take keyLen
  serverKey := (material.drop keyLen).take keyLen
  clientSalt := (material.drop (keyLen + keyLen)).take saltLen
  serverSalt := (material.drop (keyLen + keyLen + saltLen)).take saltLen
  clientKey_length := by rw [List.length_take]; omega
  serverKey_length := by rw [List.length_take, List.length_drop]; omega
  clientSalt_length := by rw [List.length_take, List.length_drop]; omega
  serverSalt_length := by rw [List.length_take, List.length_drop]; omega
  material_eq := by
    have hlast : (material.drop (keyLen + keyLen + saltLen)).take saltLen
        = material.drop (keyLen + keyLen + saltLen) := by
      apply List.take_of_length_le
      rw [List.length_drop]
      omega
    rw [hlast, List.append_assoc, List.append_assoc, take_append_drop_add, take_append_drop_add,
      List.take_append_drop]

/-- Two copies, one behind the other, fill a buffer. -/
theorem memcpy_memcpy {buf : Bytes} {i k : Nat} (h : i + k ≤ buf.length) (j s : Nat) :
    memcpy (memcpy (List.replicate (k + s) 0) 0 buf i k) k buf j s
      = (buf.drop i).take k ++ (buf.drop j).take s := by
  have hfirst : ((buf.drop i).take k).length = k := by
    rw [List.length_take, List.length_drop]
    omega
  have hrest : ((buf.drop i).take k ++ List.replicate s 0).drop (k + s) = [] := by
    apply List.drop_eq_nil_of_le
    rw [List.length_append, hfirst, List.length_replicate]
  unfold memcpy
  rw [List.take_zero, List.nil_append, Nat.zero_add, List.drop_replicate, Nat.add_sub_cancel_left,
    List.take_append_of_le_length hfirst.ge, List.take_of_length_le hfirst.le, hrest,
    List.append_nil]

/-- Where the keys come from: the key material that the adapter of the present session exports,
cut in keys and salts by the lengths of the suite. -/
theorem extractParams_eq_some {ssl : SslAdapter} {n : Nat} {d : DtlsTransport} {cs : Int}
    {sendKey recvKey : Bytes} (h : d.extractParams ssl n = some (cs, sendKey, recvKey)) :
    ∃ session keyLen saltLen, d.dtls = some session ∧
      getSrtpKeyAndSaltLengths cs = some (keyLen, saltLen) ∧
      ∃ keys : ExportedKeys (ssl.material session (keyLen * 2 + saltLen * 2)).toList keyLen saltLen,
        sendKey = keys.serverKey ++ keys.serverSalt ∧
          recvKey = keys.clientKey ++ keys.clientSalt := by
  unfold extractParams at h
  split at h
  · cases h
  · split at h
    · cases h
    · split at h
      · cases h
      · rename_i keyLen saltLen hlengths
        split at h
        · cases h
        · rename_i buf hexport
          unfold exportKeyingMaterial at hexport
          split at hexport
          · cases hexport
          · -- the material of a session, which the four copies cut into keys and salts
            rename_i session hsession
            split at hexport
            swap
            · cases hexport
            cases hexport
            have hlength : (ssl.material session (keyLen * 2 + saltLen * 2)).toList.length
                = keyLen * 2 + saltLen * 2 := Vector.length_toList
            dsimp only at h
            rw [memcpy_memcpy (by omega), memcpy_memcpy (by omega)] at h
            cases h
            exact ⟨session, keyLen, saltLen, hsession, hlengths, ExportedKeys.cut _ hlength,
              by simp [ExportedKeys.cut], by simp [ExportedKeys.cut]⟩

/-! ### Both directions or none -/

/-- A session that has been given a key. -/
def keyed (type : SsrcType) (cs : Int) (key : Bytes) : SrtpSession := ⟨some ⟨type, cs, key⟩⟩

/-- A new session is given its key, or the call fails. -/
theorem setKey_cases (lib : Libsrtp) (n : Nat) (type : SsrcType) (cs : Int) (key : Bytes) :
    (SrtpSession.setKey lib n {} type cs key).1 = false ∨
      SrtpSession.setKey lib n {} type cs key = (true, keyed type cs key) := by
  unfold SrtpSession.setKey SrtpSession.doSetKey
  split
  · exact .inl rfl
  · split
    swap
    · exact .inl rfl
    split
    · exact .inl rfl
    · split
      · exact .inl rfl
      · simp only [Option.isNone_none, if_true]
        split
        · exact .inr rfl
        · exact .inl rfl

/-- Without sessions, `set_rtp_params` creates both or leaves none. -/
theorem setRtpParams_cases (lib : Libsrtp) (n : Nat) (sendCs : Int) (sendKey : Bytes)
    (recvCs : Int) (recvKey : Bytes) :
    (SrtpTransport.setRtpParams lib n {} sendCs sendKey recvCs recvKey).2 = {} ∨
      (SrtpTransport.setRtpParams lib n {} sendCs sendKey recvCs recvKey).2
        = { sendSession := some (keyed .anyOutbound sendCs sendKey)
            recvSession := some (keyed .anyInbound recvCs recvKey) } := by
  have hnew : SrtpTransport.setRtpParams lib n {} sendCs sendKey recvCs recvKey =
      if !(SrtpSession.setKey lib n {} .anyOutbound sendCs sendKey).1 then (false, {})
      else if !(SrtpSession.setKey lib n {} .anyInbound recvCs recvKey).1 then (false, {})
      else (true,
        { sendSession := some (SrtpSession.setKey lib n {} .anyOutbound sendCs sendKey).2
          recvSession := some (SrtpSession.setKey lib n {} .anyInbound recvCs recvKey).2 }) := rfl
  rw [hnew]
  rcases setKey_cases lib n .anyOutbound sendCs sendKey with hsend | hsend
  · -- the first direction fails, and the second is rolled back too
    rw [hsend]
    exact .inl rfl
  · rw [hsend]
    rcases setKey_cases lib n .anyInbound recvCs recvKey with hrecv | hrecv
    · rw [hrecv]
      exact .inl rfl
    · rw [hrecv]
      exact .inr rfl

/-! ### The invariant -/

/-- Both SRTP sessions have the keys that a DTLS session has exported. -/
def Installed (ssl : SslAdapter) (session : Session) (srtp : SrtpTransport) : Prop :=
  ∃ cs keyLen saltLen, getSrtpKeyAndSaltLengths cs = some (keyLen, saltLen) ∧
    ∃ keys : ExportedKeys (ssl.material session (keyLen * 2 + saltLen * 2)).toList keyLen saltLen,
      srtp.sendSession = some (keyed .anyOutbound cs (keys.serverKey ++ keys.serverSalt)) ∧
        srtp.recvSession = some (keyed .anyInbound cs (keys.clientKey ++ keys.clientSalt))

/-- There is no SRTP session, or the transport is connected and both SRTP sessions have the
keys of its present DTLS session. -/
def SrtpCurrent (ssl : SslAdapter) (t : Transport) : Prop :=
  (t.srtp.sendSession = none ∧ t.srtp.recvSession = none) ∨
    (t.dtls.dtlsState = .connected ∧
      ∃ session, t.dtls.dtls = some session ∧ Installed ssl session t.srtp)

/-- The invariant of one transport. -/
structure Sound (ssl : SslAdapter) (t : Transport) : Prop where
  current : SrtpCurrent ssl t
  connected : t.dtls.dtlsState = .connected → t.dtls.dtls.isSome

variable {ssl : SslAdapter} {c c' : TransportController} {name : Bytes}

/-- A transport that is not connected has no SRTP session. -/
theorem Sound.srtp_eq {t : Transport} (h : Sound ssl t) (hstate : t.dtls.dtlsState ≠ .connected) :
    t.srtp = {} := by
  rcases h.current with ⟨hsend, hrecv⟩ | ⟨hconnected, -⟩
  · obtain ⟨channel, dtls, send, recv⟩ := t
    cases hsend
    cases hrecv
    rfl
  · exact absurd hconnected hstate

/-- Whether the keys are right depends on the DTLS state, its adapter and the session only. -/
theorem Sound.congr {t t' : Transport} (h : Sound ssl t)
    (hstate : t'.dtls.dtlsState = t.dtls.dtlsState)
    (hdtls : t'.dtls.dtls = t.dtls.dtls) (hsrtp : t'.srtp = t.srtp) : Sound ssl t' := by
  constructor
  · unfold SrtpCurrent
    rw [hstate, hdtls, hsrtp]
    exact h.current
  · rw [hstate, hdtls]
    exact h.connected

/-- A transport with no SRTP session and not connected. -/
theorem Sound.of_srtp_eq {t : Transport} (hsrtp : t.srtp = {})
    (hstate : t.dtls.dtlsState ≠ .connected) :
    Sound ssl t :=
  ⟨.inl (by rw [hsrtp]; exact ⟨rfl, rfl⟩), fun h => absurd h hstate⟩

/-! ### A change of the DTLS state -/

/-- The SRTP transport of a transport that has just connected: it gets the keys of the session, or
stays inactive if they cannot be extracted. -/
theorem maybeSetupDtlsSrtp_sound (hsrtp : (c.transports name).srtp = {})
    (hstate : (c.transports name).dtls.dtlsState = .connected)
    (hdtls : (c.transports name).dtls.dtls.isSome) :
    Sound ssl ((maybeSetupDtlsSrtp ssl c name).transports name) := by
  have hnone : Sound ssl (c.transports name) :=
    ⟨.inl (by rw [hsrtp]; exact ⟨rfl, rfl⟩), fun _ => hdtls⟩
  unfold maybeSetupDtlsSrtp
  dsimp only
  split
  · exact hnone
  · unfold setupDtlsSrtp
    dsimp only
    split
    · exact hnone
    · rename_i cs sendKey recvKey hparams
      obtain ⟨session, keyLen, saltLen, hsession, hlengths, keys, rfl, rfl⟩ :=
        extractParams_eq_some hparams
      rw [modify_self, tick_transports, hsrtp]
      refine ⟨?_, fun _ => hdtls⟩
      rcases setRtpParams_cases ssl.srtp c.calls cs (keys.serverKey ++ keys.serverSalt) cs
        (keys.clientKey ++ keys.clientSalt) with hcreated | hcreated
      · rw [hcreated]
        exact .inl ⟨rfl, rfl⟩
      · rw [hcreated]
        exact .inr ⟨hstate, session, hsession, cs, keyLen, saltLen, hlengths, keys, rfl, rfl⟩

/-- A transport that leaves the connected state, or never was in it, has no SRTP session. -/
theorem setDtlsState_srtp_eq {state : DtlsTransportState} (hstate : state ≠ .connected)
    (h : (c.transports name).dtls.dtlsState = state → (c.transports name).srtp = {}) :
    ((setDtlsState ssl c name state).transports name).srtp = {} := by
  unfold setDtlsState
  split
  · rename_i hsame
    exact h hsame
  · unfold onDtlsState
    rw [if_pos hstate, modify_self]
    rfl

/-- A new state keeps the keys right, if a transport that is connected has its adapter. The
session is set up or reset with the state. -/
theorem setDtlsState_sound (h : Sound ssl (c.transports name)) {state : DtlsTransportState}
    (hconnected : state = .connected → (c.transports name).dtls.dtls.isSome) :
    Sound ssl ((setDtlsState ssl c name state).transports name) := by
  by_cases hstate : state = .connected
  · subst hstate
    unfold setDtlsState
    split
    · exact h
    · rename_i hleft
      unfold onDtlsState
      rw [if_neg (by simp)]
      have htransport : ((c.modifyDtls name fun d =>
          { d with dtlsState := .connected }).updateState.transports name)
            = { c.transports name with
                dtls := { (c.transports name).dtls with dtlsState := .connected } } := by
        rw [updateState_transports]
        exact modify_self ..
      apply maybeSetupDtlsSrtp_sound
      · rw [htransport]
        exact h.srtp_eq hleft
      · rw [htransport]
      · rw [htransport]
        exact hconnected rfl
  · refine Sound.of_srtp_eq (setDtlsState_srtp_eq hstate fun hsame => ?_) ?_
    · exact h.srtp_eq (hsame ▸ hstate)
    · rw [setDtlsState_dtls]
      exact hstate

/-- Every action keeps every transport sound. A new state of DTLS sets SRTP up or resets it in the
same action, and the other actions touch neither. -/
theorem sound_of_action (haction : Action ssl name c c')
    (h : ∀ other, Sound ssl (c.transports other)) (other : Bytes) :
    Sound ssl (c'.transports other) := by
  by_cases hne : other = name
  swap
  · rw [haction.transports_of_ne hne]
    exact h other
  subst hne
  have hself := h other
  cases haction with
  | record => exact hself
  | change f hstate hdtls =>
      refine hself.congr ?_ ?_ ?_
      all_goals
        unfold modifyDtls
        rw [modify_self]
      · exact hstate
      · exact hdtls
  | notify =>
      rw [updateState_transports]
      exact hself
  | setDtlsState state hconnected => exact setDtlsState_sound hself hconnected
  | create session hnone =>
      -- without a session the transport has not been connected
      have hstate : (c.transports other).dtls.dtlsState ≠ .connected := by
        intro hconnected
        have hsome := hself.connected hconnected
        rw [hnone] at hsome
        cases hsome
      unfold modifyDtls
      rw [modify_self]
      exact Sound.of_srtp_eq (hself.srtp_eq hstate) hstate
  | restart =>
      refine Sound.of_srtp_eq (setDtlsState_srtp_eq (by simp) ?_) (by rw [setDtlsState_dtls]; simp)
      unfold modifyDtls
      rw [modify_self]
      intro hnew
      exact hself.srtp_eq (by rw [show (c.transports other).dtls.dtlsState = .new from hnew]; simp)

/-- So do all actions of one transport, for every transport. -/
theorem sound_of_actions (hactions : Actions ssl name c c')
    (h : ∀ other, Sound ssl (c.transports other)) (other : Bytes) :
    Sound ssl (c'.transports other) :=
  preserved_of_reflTransGen (P := fun c => ∀ other, Sound ssl (c.transports other))
    (fun _ _ => sound_of_action) hactions h other

/-! ### Events -/

/-- A change of the channel of a transport, after which the agent is told. -/
theorem sound_channel (h : ∀ other, Sound ssl (c.transports other)) {f : Transport → Transport}
    (hdtls : (f (c.transports name)).dtls = (c.transports name).dtls)
    (hsrtp : (f (c.transports name)).srtp = (c.transports name).srtp) (other : Bytes) :
    Sound ssl ((IceAgent.updateState (c.modify name f)).transports other) := by
  rw [agentUpdateState_transports]
  by_cases hne : other = name
  · subst hne
    rw [modify_self]
    exact (h other).congr (by rw [hdtls]) (by rw [hdtls]) hsrtp
  · rw [modify_of_ne _ _ _ hne]
    exact h other

/-- So does what the channel reports. -/
theorem sound_channelUpdateState (h : ∀ other, Sound ssl (c.transports other))
    (writable receiving : Bool) (state : IceTransportState) (other : Bytes) :
    Sound ssl ((IceChannel.updateState ssl c name writable receiving state).transports other) := by
  have hwritable : ∀ other,
      Sound ssl ((IceChannel.setWritable ssl c name writable).transports other) := by
    unfold IceChannel.setWritable
    split
    · exact h
    · exact sound_of_actions (actions_onWritableState ssl) (sound_channel h rfl rfl)
  have hreceiving : ∀ other, Sound ssl ((IceChannel.setReceiving
      (IceChannel.setWritable ssl c name writable) name receiving).transports other) := by
    unfold IceChannel.setReceiving
    split
    · exact hwritable
    · exact sound_of_actions (actions_onReceivingState ssl) (sound_channel hwritable rfl rfl)
  unfold IceChannel.updateState IceChannel.setState
  split
  · exact sound_channel hreceiving rfl rfl other
  · exact hreceiving other

/-- So does every event. -/
theorem sound_step (h : ∀ other, Sound ssl (c.transports other)) (x : Bytes × Event)
    (other : Bytes) : Sound ssl ((step ssl c x).transports other) := by
  obtain ⟨name, e⟩ := x
  unfold step
  split
  swap
  · exact h other
  cases e with
  | iceChannel writable receiving state => exact sound_channelUpdateState h _ _ _ other
  | readPacket buf ts => exact sound_of_actions (actions_onReadPacket ssl buf ts) h other
  | dtlsEvent e =>
      show Sound ssl ((if (c.transports name).dtls.dtls.isSome then
        onDtlsEvent ssl c name e else c).transports other)
      split
      · rename_i hsome
        exact sound_of_actions (actions_onDtlsEvent ssl hsome e).1 h other
      · exact h other
  | setRemoteFingerprint digestAlg digest =>
      exact sound_of_actions (actions_setRemoteFingerprint ssl digestAlg digest) h other

/-! ### Runs -/

/-- New transports have no keys, and need none. -/
theorem sound_addTransports (mids : List Bytes) (h : ∀ other, Sound ssl (c.transports other)) :
    ∀ other, Sound ssl ((c.addTransports mids).transports other) := by
  unfold addTransports
  induction mids generalizing c with
  | nil => exact h
  | cons mid mids ih =>
      refine ih fun other => ?_
      by_cases hne : other = mid
      · subst hne
        rw [addTransport_self]
        refine Sound.of_srtp_eq rfl ?_
        dsimp only
        rw [setLocalCertificate_dtlsState]
        decide
      · rw [addTransport_of_ne c hne]
        exact h other

/-- SRTP runs only while DTLS is connected and only with the keys of the present session:
for every transport, along every run and for every adapter. -/
theorem always_srtpCurrent (ssl : SslAdapter) (certificate : Option Certificate)
    (mids : List Bytes) (xs : List (Bytes × Event)) :
    Always (step ssl) (fun c => ∀ name, SrtpCurrent ssl (c.transports name))
      ((freshController certificate).addTransports mids) xs := by
  have hfresh : ∀ name, Sound ssl ((freshController certificate).transports name) :=
    fun _ => Sound.of_srtp_eq rfl (by unfold freshController; simp)
  have hrun : Always (step ssl) (fun c => ∀ name, Sound ssl (c.transports name))
      ((freshController certificate).addTransports mids) xs := by
    refine always_of_step (fun c x h => ?_) (sound_addTransports mids hfresh) xs
    exact sound_step h x
  exact hrun.imp fun _ h name => (h name).current

end Xrtc.Proofs.Pc
