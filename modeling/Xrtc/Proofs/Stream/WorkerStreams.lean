import Xrtc.Proofs.Stream.Forwarding

/-!
# `Xrtc.Proofs.Stream.WorkerStreams`: where the streams of a worker come from

After an event, a stream is a new one with its offer (`Created`), or it was there before and its
peer connection has taken one step: none, an event at one of its transports, or an answer
(`StreamStep`). `heap_of_step` is this inversion of `MediaWorker.step`. The signals of an event may
remove streams and change no peer connection (`heap_of_signal`). `history_of_streams` is the rule
that follows for what holds of every stream in every state.

By this rule a stream has the transport it has made its offer with (`first_of_run`). So what a
worker sends on leaves by the transport of the audio section, and `isolated_of_run` says so for
every packet of a run, at the time when it was sent.
-/

set_option autoImplicit false

namespace Xrtc.Proofs.Stream

open Xrtc.Lib
open Xrtc.Ice (ascii)
open Xrtc.Pc
open Xrtc.Stream
open Xrtc.Proofs.Pc
open Xrtc.Proofs.Sdk (offerTypes offerContent_type offerDescription_eq)

variable {ssl : Nat → SslAdapter} {crypto : SrtpCrypto} {ntop6 : Vector UInt8 16 → Bytes}
  {w : MediaWorker}

/-- The peer connection of a new stream, once the stream has made its offer. -/
def Offered (ntop6 : Vector UInt8 16 → Bytes) (pc : PeerConnection) : Prop :=
  ∃ (start : PeerConnection) (draw : OfferDraw) (certificate : Option LocalCertificate)
    (options : Stream.RTCOfferAnswerOptions), start.transportController = {} ∧
      pc = ((initPeerConnection start certificate).createOffer ntop6 draw.allocated
        (offerAnswerOptions options) draw.iceParam).2

/-- A stream that makes its offer. -/
def offeredStream (ntop6 : Vector UInt8 16 → Bytes) (draw : OfferDraw)
    (certificate : Option LocalCertificate) (stream : RtcStream PeerConnection) :
    RtcStream PeerConnection :=
  { stream with
      pc := ((peerConnectionOps ntop6 draw).createOffer
        ((peerConnectionOps ntop6 draw).init stream.pc certificate) stream.offerOptions).1 }

/-- `get_audio_source` and `get_video_source` of the stream at `p`. -/
def sourceOf (m : RtcStreamManager PeerConnection) (p : Nat) (mid : String) : List StreamParams :=
  ((m.heap p).bind fun s => s.pc.remoteDesc.bind fun d =>
    (d.getContent (ascii mid)).map MediaContentDescription.sendStreams).getD []

/-- The streams that an event creates. A pull stream has the tracks of the push stream that is
found under its name. -/
inductive Created (ntop6 : Vector UInt8 16 → Bytes) (m : RtcStreamManager PeerConnection) :
    MediaWorker.Event → RtcStream PeerConnection → Prop where
  | push (uid : UInt64) (name : String) (audio video : Bool) (logId : UInt32)
      (certificate : Option LocalCertificate) (draw : OfferDraw) :
      Created ntop6 m (.push uid name audio video logId certificate draw)
        (offeredStream ntop6 draw certificate ⟨.push, uid, name, audio, video, logId, {}⟩)
  | pull (uid : UInt64) (name : String) (audio video : Bool) (logId : UInt32)
      (certificate : Option LocalCertificate) (draw : OfferDraw) {p : Nat}
      (h : m.pushStreams name = some p) :
      Created ntop6 m (.pull uid name audio video logId certificate draw)
        (offeredStream ntop6 draw certificate ⟨.pull, uid, name, audio, video, logId,
          { audioSource := sourceOf (m.removePullStream uid name) p "audio"
            videoSource := sourceOf (m.removePullStream uid name) p "video" }⟩)

/-- What an event does to the stream at `p`. -/
inductive StreamStep (ssl : Nat → SslAdapter) (e : MediaWorker.Event) (p : Nat)
    (stream : RtcStream PeerConnection) : RtcStream PeerConnection → Prop where
  | same : StreamStep ssl e p stream stream
  | event (name : Bytes) (ev : TransportController.Event) (h : e = .transport p name ev) :
      StreamStep ssl e p stream { stream with
        pc := { stream.pc with
          transportController := TransportController.step (ssl p)
            (MediaWorker.clearLog stream.pc).transportController (name, ev) } }
  | answer {sdp : Bytes} {ret : Int} {pc' : PeerConnection}
      (he : e = .answer stream.uid stream.streamName sdp (typeName stream.streamType))
      (h : (MediaWorker.clearLog stream.pc).setRemoteSdp (ssl p) sdp = .returns ret pc') :
      StreamStep ssl e p stream { stream with pc := pc' }

/-- A new stream has made its offer. -/
theorem offered_of_created {m : RtcStreamManager PeerConnection} {e : MediaWorker.Event}
    {s : RtcStream PeerConnection} (h : Created ntop6 m e s) : Offered ntop6 s.pc := by
  -- the sources of a push stream do not touch the transports
  cases h <;> exact ⟨_, _, _, _, rfl, rfl⟩

/-! ### Signals -/

/-- A stream that is left after some signals was there before them. -/
theorem heap_of_deliver (p : Nat) (entries : List Entry) {w : MediaWorker} {q : Nat}
    {stream : RtcStream PeerConnection}
    (h : (entries.foldl (MediaWorker.deliver crypto p) w).manager.heap q = some stream) :
    w.manager.heap q = some stream := by
  induction entries generalizing w with
  | nil => exact h
  | cons e entries ih =>
      have hfirst := ih h
      cases e with
      | connectionState state => exact (delivered_onConnectionState w p state).heap q stream hfirst
      | readPacket name data =>
          obtain ⟨cryptoCalls, sent, heq⟩ := onReadPacket_eq crypto w p name data
          rw [MediaWorker.deliver, heq] at hfirst
          exact hfirst
      | startSSL | handlePacket | receivedPacket | closed => exact hfirst

/-- A signal changes the peer connection of its own stream, which comes with it. -/
theorem heap_of_signal {p q : Nat} {stream s : RtcStream PeerConnection} {pc : PeerConnection}
    (h : (w.signal crypto p stream pc).manager.heap q = some s) :
    (q = p ∧ s = { stream with pc }) ∨ (q ≠ p ∧ w.manager.heap q = some s) := by
  have hbefore := heap_of_deliver p _ h
  change (withPc w.manager p stream pc).heap q = some s at hbefore
  rw [withPc_heap] at hbefore
  by_cases hq : q = p
  · rw [hq, Function.update_self] at hbefore
    exact .inl ⟨hq, (Option.some.inj hbefore).symm⟩
  · rw [Function.update_of_ne hq] at hbefore
    exact .inr ⟨hq, hbefore⟩

/-- A stream after an event at a transport. -/
theorem heap_of_transportEvent {p q : Nat} {name : Bytes} {e : TransportController.Event}
    {s : RtcStream PeerConnection}
    (h : (w.transportEvent crypto ssl p name e).manager.heap q = some s) :
    ∃ stream, w.manager.heap q = some stream ∧ s = { stream with
      pc := if q = p then { stream.pc with
        transportController := TransportController.step (ssl p)
          (MediaWorker.clearLog stream.pc).transportController (name, e) } else stream.pc } := by
  unfold MediaWorker.transportEvent at h
  split at h
  · rename_i hnone
    refine ⟨s, h, ?_⟩
    rw [if_neg]
    rintro rfl
    rw [hnone] at h
    cases h
  · rename_i stream hheap
    dsimp only at h
    rcases heap_of_signal h with ⟨rfl, rfl⟩ | ⟨hq, hold⟩
    · exact ⟨stream, hheap, by rw [if_pos rfl]⟩
    · exact ⟨s, hold, by rw [if_neg hq]⟩

/-! ### Messages -/

/-- To remove a stream leaves the others on the heap as they were. -/
theorem heap_of_removeStream {m : RtcStreamManager PeerConnection} {t : RtcStreamType}
    {uid : UInt64} {name : String} {q : Nat} {s : RtcStream PeerConnection}
    (h : (m.removeStream t uid name).heap q = some s) : m.heap q = some s := by
  rcases removeStream_cases m t uid name with heq | ⟨p, -, heq⟩
  · rwa [heq] at h
  · rw [heq] at h
    exact (heap_of_withoutStream h).2

/-- A stream after a message that creates one, which gets the next number. -/
theorem heap_of_offered (m : RtcStreamManager PeerConnection) (stream : RtcStream PeerConnection)
    {m₀ : RtcStreamManager PeerConnection} (hnext : m.next = m₀.next)
    (hold : ∀ q s, m.heap q = some s → m₀.heap q = some s) {q : Nat}
    {s : RtcStream PeerConnection} (h : (withStream m stream).heap q = some s) :
    (q = m₀.next ∧ s = stream) ∨ m₀.heap q = some s := by
  rw [withStream_heap] at h
  by_cases hq : q = m.next
  · rw [hq, Function.update_self] at h
    exact .inl ⟨hq.trans hnext, (Option.some.inj h).symm⟩
  · rw [Function.update_of_ne hq] at h
    exact .inr (hold q s h)

variable (uid : UInt64) (name : String) (audio video : Bool) (logId : UInt32)
  (certificate : Option LocalCertificate) (draw : OfferDraw)

/-- After a push request a stream on the heap is the new one, or was there before. -/
theorem heap_of_push {q : Nat} {s : RtcStream PeerConnection}
    (h : (w.created (w.manager.createPushStream (peerConnectionOps ntop6 draw) uid name audio
      video logId certificate)).manager.heap q = some s) :
    (q = w.manager.next ∧
        Created ntop6 w.manager (.push uid name audio video logId certificate draw) s) ∨
      w.manager.heap q = some s := by
  let stream := offeredStream ntop6 draw certificate ⟨.push, uid, name, audio, video, logId, {}⟩
  have hcreated : ∀ s', s' = stream →
      Created ntop6 w.manager (.push uid name audio video logId certificate draw) s' := by
    rintro s' rfl
    exact .push uid name audio video logId certificate draw
  unfold RtcStreamManager.createPushStream RtcStreamManager.findPushStream at h
  cases hp : w.manager.pushStreams name with
  | none =>
      rw [hp] at h
      exact (heap_of_offered w.manager stream rfl (fun _ _ h => h) h).imp_left
        (And.imp_right (hcreated s))
  | some p =>
      rw [hp] at h
      exact (heap_of_offered (withoutStream w.manager .push name p) stream
        withoutStream_next (fun _ _ h => (heap_of_withoutStream h).2) h).imp_left
        (And.imp_right (hcreated s))

/-- After a pull request too. A stream of the same uid is deleted first, and one of another uid
stays on the heap and is only found no more. -/
theorem heap_of_pull {q : Nat} {s : RtcStream PeerConnection}
    (h : (w.created (w.manager.createPullStream (peerConnectionOps ntop6 draw) uid name audio
      video logId certificate)).manager.heap q = some s) :
    (q = w.manager.next ∧
        Created ntop6 w.manager (.pull uid name audio video logId certificate draw) s) ∨
      w.manager.heap q = some s := by
  unfold RtcStreamManager.createPullStream RtcStreamManager.findPushStream at h
  cases hp : w.manager.pushStreams name with
  | none =>
      rw [hp] at h
      exact .inr h
  | some push =>
      rw [hp] at h
      have hnext : (w.manager.removePullStream uid name).next = w.manager.next := by
        unfold RtcStreamManager.removePullStream
        rcases removeStream_cases w.manager .pull uid name with heq | ⟨p, -, heq⟩
        · rw [heq]
        · rw [heq, withoutStream_next]
      let stream := offeredStream ntop6 draw certificate ⟨.pull, uid, name, audio, video, logId,
        { audioSource := sourceOf (w.manager.removePullStream uid name) push "audio"
          videoSource := sourceOf (w.manager.removePullStream uid name) push "video" }⟩
      refine (heap_of_offered (w.manager.removePullStream uid name) stream hnext
        (fun _ _ h => heap_of_removeStream h) h).imp_left (And.imp_right ?_)
      rintro rfl
      exact .pull uid name audio video logId certificate draw hp

/-- An answer leaves the description of the offer alone. -/
theorem setRemoteSdp_localDesc {ssl : SslAdapter} {pc pc' : PeerConnection} {sdp : Bytes}
    {ret : Int} (h : pc.setRemoteSdp ssl sdp = .returns ret pc') : pc'.localDesc = pc.localDesc := by
  unfold PeerConnection.setRemoteSdp at h
  split at h
  · cases h
    rfl
  · split at h
    · cases h
    · cases h
      rfl
    · split at h
      · cases h
      · cases h
        rfl

/-- The remote description is that of an accepted answer, or one without tracks. -/
theorem setRemoteSdp_remoteDesc {ssl : SslAdapter} {pc pc' : PeerConnection} {sdp : Bytes}
    {ret : Int} (h : pc.setRemoteSdp ssl sdp = .returns ret pc') :
    pc'.remoteDesc = pc.remoteDesc ∨
      (∃ r, RemoteSdp.parseLines {} (sdpFields sdp) = .ok r ∧
        pc'.remoteDesc = some r.description) ∨
      ∃ r : RemoteSdp, pc'.remoteDesc = some r.partialDescription := by
  unfold PeerConnection.setRemoteSdp at h
  split at h
  · cases h
    exact .inl rfl
  · split at h
    · cases h
    · cases h
      exact .inr (.inr ⟨_, rfl⟩)
    · rename_i r hr
      split at h
      · cases h
      · cases h
        exact .inr (.inl ⟨r, hr, rfl⟩)

/-- A stream behind an answer is the one before it, or the answer has reached it. -/
theorem heap_of_setAnswer (hentries : Entries w.manager) {answer : Bytes} {streamType : String}
    {w' : MediaWorker} (hanswer : w.setAnswer crypto ssl uid name answer streamType = some w')
    {q : Nat} {s : RtcStream PeerConnection} (h : w'.manager.heap q = some s) :
    ∃ stream, w.manager.heap q = some stream ∧
      StreamStep ssl (.answer uid name answer streamType) q stream s := by
  rcases setAnswer_cases crypto hanswer with
    rfl | ⟨t, p, stream, ret, pc, rfl, hp, hheap, rfl, hsdp, rfl⟩
  · exact ⟨s, h, .same⟩
  -- the entry leads to a stream of this type and name
  obtain ⟨stream', hheap', rfl, rfl⟩ := hentries.entry t name p hp
  obtain rfl : stream' = stream := Option.some.inj (hheap'.symm.trans hheap)
  rcases heap_of_signal h with ⟨rfl, rfl⟩ | ⟨-, hold⟩
  · exact ⟨stream', hheap, .answer rfl hsdp⟩
  · exact ⟨s, hold, .same⟩

/-! ### Events -/

/-- A stream after one step is the one that was created in it, or what the step made of one
before. -/
theorem heap_of_step (hentries : Entries w.manager) {e : MediaWorker.Event} {w' : MediaWorker}
    (hstep : w.step crypto ssl ntop6 e = some w') {q : Nat} {s : RtcStream PeerConnection}
    (h : w'.manager.heap q = some s) :
    (q = w.manager.next ∧ Created ntop6 w.manager e s) ∨
      ∃ stream, w.manager.heap q = some stream ∧ StreamStep ssl e q stream s := by
  -- a stream that the event does not reach stays as it was
  have hsame : w.manager.heap q = some s →
      ∃ stream, w.manager.heap q = some stream ∧ StreamStep ssl e q stream s :=
    fun hold => ⟨s, hold, .same⟩
  cases e with
  | push uid name audio video logId certificate draw =>
      cases hstep
      exact (heap_of_push uid name audio video logId certificate draw h).imp_right hsame
  | pull uid name audio video logId certificate draw =>
      cases hstep
      exact (heap_of_pull uid name audio video logId certificate draw h).imp_right hsame
  | answer uid name sdp streamType =>
      exact .inr (heap_of_setAnswer uid name hentries hstep h)
  | stopPush uid name =>
      cases hstep
      exact .inr (hsame (heap_of_removeStream h))
  | stopPull uid name =>
      cases hstep
      exact .inr (hsame (heap_of_removeStream h))
  | transport p name ev =>
      cases hstep
      obtain ⟨stream, hheap, rfl⟩ := heap_of_transportEvent h
      refine .inr ⟨stream, hheap, ?_⟩
      split
      · rename_i hq
        subst hq
        exact .event name ev rfl
      · exact .same
  | iceTimeout p =>
      cases hstep
      -- a timeout only removes streams
      unfold MediaWorker.iceTimeoutCb at h
      split at h
      · exact .inr (hsame h)
      rename_i stream hheap
      split at h
      · exact .inr (hsame h)
      dsimp only at h
      split at h
      · rw [onStreamException_eq _ hheap] at h
        exact .inr (hsame (heap_of_removeStream h))
      · exact .inr (hsame h)

/-- The invariant rule for the streams of a worker, one by one. It has to hold of a new stream,
and to be kept by what an event does to a stream. -/
theorem history_of_streams {P : List MediaWorker.Event → RtcStream PeerConnection → Prop}
    (hcreated : ∀ {es : List MediaWorker.Event} {w : MediaWorker} {e : MediaWorker.Event}
      {s : RtcStream PeerConnection}, Entries w.manager →
        (∀ p s, w.manager.heap p = some s → P es s) → Created ntop6 w.manager e s →
          P (es ++ [e]) s)
    (hstep : ∀ {es : List MediaWorker.Event} {e : MediaWorker.Event} {p : Nat}
      {stream s : RtcStream PeerConnection}, P es stream → StreamStep ssl e p stream s →
        P (es ++ [e]) s)
    {es : List MediaWorker.Event}
    (hrun : runPartial (MediaWorker.step crypto ssl ntop6) {} es = some w) :
    ∀ p s, w.manager.heap p = some s → P es s := by
  refine history_of_runPartial (P := fun es (w : MediaWorker) =>
    ∀ p s, w.manager.heap p = some s → P es s) ?_ ?_ hrun
  · intro es w e w' hpast hnext h p s hheap
    have hentries := (settled_of_run ntop6 crypto hpast).inv.entries
    rcases heap_of_step hentries hnext hheap with ⟨-, hnew⟩ | ⟨stream, hold, hs⟩
    · exact hcreated hentries h hnew
    · exact hstep (h p stream hold) hs
  · intro p s hheap
    cases hheap

/-! ### The transport of a stream -/

/-- The section of an offer that its transport is of. The other one is bundled with it. -/
def firstSection {Pc : Type} (s : RtcStream Pc) : Option MediaType :=
  if s.audio then some .audio else if s.video then some .video else none

/-- The first section of an offer is the one that carries the transport. -/
theorem head?_offerTypes {Pc : Type} (s : RtcStream Pc) :
    (offerTypes (offerAnswerOptions s.offerOptions)).head? = firstSection s := by
  unfold firstSection offerTypes RtcStream.offerOptions
  cases s.streamType <;> cases s.audio <;> cases s.video <;> rfl

/-- With RTP and RTCP of all media in one transport, the others have none. -/
theorem transportSections_offer (pc : PeerConnection) {options : Pc.RTCOfferAnswerOptions}
    (hmux : options.useRtpMux = true) (iceParam : Ice.IceParameters) :
    (pc.offerDescription options iceParam).transportSections.map MediaContentDescription.mid
      = ((offerTypes options).head?.map MediaType.mid).toList := by
  have hmids : MediaType.video.mid ≠ MediaType.audio.mid := by simp [MediaType.mid, ascii]
  rw [offerDescription_eq, hmux]
  unfold SessionDescription.transportSections SessionDescription.isBundle
    SessionDescription.getFirstBundleMid SessionDescription.getGroupByName offerTypes
  cases options.recvAudio || options.sendAudio <;> cases options.recvVideo || options.sendVideo <;>
    simp [MediaContentDescription.mid, offerContent_type, hmids]

/-- A stream that has made its offer has one transport, that of the first section. Before that it
has none. -/
def First (s : RtcStream PeerConnection) : Prop :=
  s.pc.transportController.names
    = if s.pc.localDesc.isSome then ((firstSection s).map MediaType.mid).toList else []

/-- The transport of a new stream has the name of its first section. -/
theorem first_of_created {m : RtcStreamManager PeerConnection} {e : MediaWorker.Event}
    {s : RtcStream PeerConnection} (h : Created ntop6 m e s) : First s := by
  -- the sources of a push stream do not touch the transports
  have hoffered : ∀ (draw : OfferDraw) (certificate : Option LocalCertificate)
      (stream : RtcStream PeerConnection), stream.pc.transportController = {} →
      stream.pc.localDesc = none → First (offeredStream ntop6 draw certificate stream) := by
    intro draw certificate stream hcontroller hlocal
    let pc := initPeerConnection stream.pc certificate
    have hnames : pc.transportController.names = [] := by
      show stream.pc.transportController.names = []
      rw [hcontroller]
    have hnone : pc.localDesc = none := hlocal
    show (pc.createOffer ntop6 draw.allocated (offerAnswerOptions stream.offerOptions)
        draw.iceParam).2.transportController.names
      = if (pc.createOffer ntop6 draw.allocated (offerAnswerOptions stream.offerOptions)
          draw.iceParam).2.localDesc.isSome then ((firstSection stream).map MediaType.mid).toList
        else []
    unfold PeerConnection.createOffer
    split
    · -- the certificate has no fingerprint, and there is no offer
      dsimp only
      rw [hnone, hnames]
      rfl
    · dsimp only [Option.isSome_some]
      rw [if_pos rfl]
      unfold TransportController.setLocalDescription
      rw [transportSections_offer pc rfl, head?_offerTypes]
      show (pc.transportController.addTransports _).names
        = ((firstSection stream).map MediaType.mid).toList
      cases firstSection stream with
      | none => exact hnames
      | some type =>
          show (pc.transportController.addTransport type.mid).names = [type.mid]
          unfold TransportController.addTransport
          dsimp only
          rw [hnames, if_neg List.not_mem_nil]
          rfl
  cases h with
  | push => exact hoffered _ _ _ rfl rfl
  | pull => exact hoffered _ _ _ rfl rfl

/-- An answer makes no new transports. -/
theorem setRemoteDescription_names {ssl : SslAdapter} {c c' : TransportController}
    {desc : SessionDescription} (h : c.setRemoteDescription ssl desc = some c') :
    c'.names = c.names := by
  refine @invariant_of_runPartial _ _ (fun v => v.names = c.names) _ ?_ _ _ _ rfl h
  intro v content v' hnext hv
  exact ((setRemoteTransport_spec ssl desc v content.mid).2 v' hnext).trans hv

/-- No step gives a stream another transport. -/
theorem first_of_streamStep {e : MediaWorker.Event} {p : Nat} {stream s : RtcStream PeerConnection}
    (h : First stream) (hstep : StreamStep ssl e p stream s) : First s := by
  cases hstep with
  | same => exact h
  | event name ev _ =>
      show (TransportController.step (ssl p) _ (name, ev)).names = _
      rw [step_names]
      exact h
  | answer he hsdp =>
      rename_i sdp ret pc'
      have hlocal : pc'.localDesc = (MediaWorker.clearLog stream.pc).localDesc :=
        setRemoteSdp_localDesc hsdp
      have hnames : pc'.transportController.names = stream.pc.transportController.names := by
        rcases setRemoteSdp_controller hsdp with hsame | ⟨desc, hdesc⟩
        · rw [hsame]
          rfl
        · have hkept := setRemoteDescription_names hdesc
          exact hkept
      show pc'.transportController.names = if pc'.localDesc.isSome then _ else []
      rw [hnames, hlocal]
      exact h

/-- Every stream has the transport it has made its offer with. -/
theorem first_of_run {es : List MediaWorker.Event}
    (hrun : runPartial (MediaWorker.step crypto ssl ntop6) {} es = some w) :
    ∀ p s, w.manager.heap p = some s → First s :=
  history_of_streams (P := fun _ s => First s) (fun _ _ hcreated => first_of_created hcreated)
    (fun h hs => first_of_streamStep h hs) hrun

/-- So one with a transport for audio has no other transport. -/
theorem First.bundled {s : RtcStream PeerConnection} (h : First s)
    (haudio : ascii "audio" ∈ s.pc.transportController.names) :
    s.audio = true ∧ s.pc.transportController.names = [ascii "audio"] := by
  have hmids : ascii "audio" ≠ MediaType.video.mid := by simp [MediaType.mid, ascii]
  unfold First at h
  split at h
  swap
  · rw [h] at haudio
    cases haudio
  unfold firstSection at h
  split at h
  · rename_i hsection
    exact ⟨hsection, h⟩
  · -- the transport of a stream without audio is that of its video
    rw [h] at haudio
    split at haudio
    · exact absurd (List.mem_singleton.mp haudio) hmids
    · cases haudio

/-! ### Packets that are sent on -/

/-- A packet leaves a stream by the transport of its audio section, which is the only one it has,
protected with the keys of the DTLS session there. `n` is the number of the call of libsrtp. -/
structure Leaves (ssl : SslAdapter) (crypto : SrtpCrypto) (n : Nat)
    (target : RtcStream PeerConnection) (kind : MediaKind) (packet data : Bytes) : Prop where
  audio : target.audio = true
  bundled : target.pc.transportController.names = [ascii "audio"]
  keys : ∃ recvKey sendKey,
    Secured ssl (target.pc.transportController.transports (ascii "audio")) recvKey sendKey ∧
      crypto.protect n kind sendKey packet = some data

/-- The event hands the packet `x` on from one stream of a worker to another one. -/
structure HandsOn (ssl : Nat → SslAdapter) (crypto : SrtpCrypto) (w : MediaWorker)
    (e : MediaWorker.Event) (x : ForwardedPacket) (source target : RtcStream PeerConnection) :
    Prop where
  fromSource : w.manager.heap x.source = some source
  toTarget : w.manager.heap x.target = some target
  streamName : target.streamName = source.streamName
  mayPass : MayPass x.kind source.streamType target.streamType
  comesIn : ∃ name buf ts packet, e = .transport x.source name (.readPacket buf ts) ∧
    Receives (ssl x.source) crypto w.cryptoCalls source.pc.transportController name buf x.kind
      packet ∧
    Leaves (ssl x.target) crypto (w.cryptoCalls + 1) target x.kind packet x.data

/-- In a run, an event has handed the packet on. -/
def Isolated (ssl : Nat → SslAdapter) (crypto : SrtpCrypto) (ntop6 : Vector UInt8 16 → Bytes)
    (es : List MediaWorker.Event) (x : ForwardedPacket) : Prop :=
  ∃ before e after w source target, es = before ++ e :: after ∧
    runPartial (MediaWorker.step crypto ssl ntop6) {} before = some w ∧
      HandsOn ssl crypto w e x source target

/-- What holds of a packet after some events holds after more of them. -/
theorem Isolated.append {es : List MediaWorker.Event} {x : ForwardedPacket}
    (h : Isolated ssl crypto ntop6 es x) (fs : List MediaWorker.Event) :
    Isolated ssl crypto ntop6 (es ++ fs) x := by
  obtain ⟨before, e, after, w, source, target, rfl, hrun, hx⟩ := h
  exact ⟨before, e, after ++ fs, w, source, target, by simp, hrun, hx⟩

/-- A packet that goes on is handed on. -/
theorem handsOn_of_goesOn {es : List MediaWorker.Event}
    (hrun : runPartial (MediaWorker.step crypto ssl ntop6) {} es = some w)
    {e : MediaWorker.Event} {x : ForwardedPacket} (h : GoesOn ssl crypto w e x) :
    ∃ source target, HandsOn ssl crypto w e x source target := by
  obtain ⟨name, buf, ts, source, target, packet, he, hx⟩ := h
  obtain ⟨haudio, hbundled⟩ :=
    (first_of_run hrun x.target target hx.toTarget).bundled hx.sends.transport
  exact ⟨source, target, hx.fromSource, hx.toTarget, hx.streamName, hx.mayPass,
    name, buf, ts, packet, he, hx.receives, haudio, hbundled, hx.sends.keys⟩

/-- No run mixes two streams. What a worker has sent came in on a stream of the same name and of
the other type, only RTCP went to a push stream, and it left by the transport of the audio section
of its target. -/
theorem isolated_of_run {es : List MediaWorker.Event}
    (hrun : runPartial (MediaWorker.step crypto ssl ntop6) {} es = some w) :
    ∀ x ∈ w.sent, Isolated ssl crypto ntop6 es x := by
  refine history_of_runPartial (P := fun es (w : MediaWorker) =>
    ∀ x ∈ w.sent, Isolated ssl crypto ntop6 es x) ?_ (fun x hx => absurd hx List.not_mem_nil) hrun
  intro es w e w' hpast hstep h x hx
  rcases sent_step (settled_of_run ntop6 crypto hpast) hstep with ⟨y, hy, hone⟩ | ⟨hnone, -⟩
  · rw [hone] at hx
    rcases List.mem_append.mp hx with hold | hnew
    · exact (h x hold).append [e]
    · cases List.mem_singleton.mp hnew
      obtain ⟨source, target, hhands⟩ := handsOn_of_goesOn hpast hy
      exact ⟨es, e, [], w, source, target, rfl, hpast, hhands⟩
  · rw [hnone] at hx
    exact (h x hx).append [e]

/-- The packet that is passed on in this run came in on the stream of its name, and left by the
audio transport. -/
theorem isolated_of_passEvents : ∃ w : MediaWorker, w.sent = [⟨0, 1, .rtp, taggedPacket⟩] ∧
    ∀ x ∈ w.sent, Isolated (fun _ => quietAdapter) tagCrypto (fun _ => []) passEvents x := by
  obtain ⟨w, hrun, hsent, -⟩ := passRun_passEvents
  exact ⟨w, hsent, isolated_of_run hrun⟩

end Xrtc.Proofs.Stream
