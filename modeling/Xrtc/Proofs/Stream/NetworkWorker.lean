import Xrtc.Proofs.Ice.ChannelPackets
import Xrtc.Proofs.Pc.ChannelValues
import Xrtc.Proofs.Stream.WorkerStreams
import Xrtc.Stream.NetworkWorker

/-!
# `Xrtc.Proofs.Stream.NetworkWorker`: from one peer to another

Three layers meet in a worker: the channels, the peer connections above them, and the manager
that forwards. `NetworkInv` ties them together, and every event keeps it. A peer connection
has heard the values of its channels (`Follows`), so it is the aggregate of what the channels
really are. A channel knows only the addresses of peers that have proved themselves with the
password of the offer.

`datagrams_of_run` follows a packet through the server. What leaves it has come in from a peer
that had proved itself to the source, was forwarded as `Forwards` allows, and goes to a peer
that had proved itself to the target. `channels_of_run` says what a stream that can be found
has beneath it: a connection that is still active, if it has ever had one, and a writable one
while it is connected.
-/

set_option autoImplicit false

namespace Xrtc.Proofs.Stream

open Xrtc.Lib
open Xrtc.Ice (ascii SocketAddress MessageDigest Allocator)
open Xrtc.Pc
open Xrtc.Stream
open Xrtc.Proofs.Pc
open Xrtc.Proofs.Ice (ChannelValues valuesOf heard Tells KnownPeers Proves)

variable {ssl : Nat → SslAdapter} {crypto : SrtpCrypto} {ntop6 : Vector UInt8 16 → Bytes}

/-! ### What a peer connection has heard -/

/-- The peer connections have the values of the channels, and are the aggregates of them. -/
structure Follows (view : Nat → Bytes → ChannelValues) (media : MediaWorker) : Prop where
  aggregated : ∀ p stream, media.manager.heap p = some stream →
    Aggregated stream.pc.transportController
  values : ∀ p stream, media.manager.heap p = some stream → ∀ name,
    valuesOf (stream.pc.transportController.transports name).channel = view p name

/-- Other values for one channel. -/
def setView (view : Nat → Bytes → ChannelValues) (p : Nat) (name : Bytes) (v : ChannelValues) :
    Nat → Bytes → ChannelValues :=
  fun q other => if q = p ∧ other = name then v else view q other

variable {view : Nat → Bytes → ChannelValues} {media : MediaWorker}

/-- The record is no part of what is aggregated. -/
theorem aggregated_clearLog {pc : PeerConnection} (h : Aggregated pc.transportController) :
    Aggregated (MediaWorker.clearLog pc).transportController :=
  h.congr rfl (fun _ => rfl) (fun _ => rfl) rfl rfl

/-- An event that is not of a channel. -/
theorem Follows.upper (h : Follows view media) {p : Nat} {name : Bytes}
    {e : TransportController.Event} (he : IsUpper e) :
    Follows view (media.transportEvent crypto ssl p name e) := by
  constructor
  · intro q s hq
    obtain ⟨stream, hheap, rfl⟩ := heap_of_transportEvent hq
    have hagg := h.aggregated q stream hheap
    dsimp only
    split
    · apply aggregated_change (aggregated_clearLog hagg) (name, .event e)
      cases e with
      | iceChannel => cases he
      | readPacket | dtlsEvent | setRemoteFingerprint => trivial
    · exact hagg
  · intro q s hq other
    obtain ⟨stream, hheap, rfl⟩ := heap_of_transportEvent hq
    dsimp only
    split
    · dsimp only
      rw [step_channel he]
      exact h.values q stream hheap other
    · exact h.values q stream hheap other

/-- A signal of a channel, which tells all three values. The transport of its name takes them
over, and the view is what was told last. -/
theorem Follows.iceChannel (h : Follows view media) {p : Nat} {name : Bytes}
    (hname : ∀ stream, media.manager.heap p = some stream →
      name ∈ stream.pc.transportController.names)
    (v : ChannelValues) (hopen : v.state ≠ .closed) :
    Follows (setView view p name v) (media.transportEvent crypto ssl p name
      (.iceChannel v.writable v.receiving v.state)) := by
  constructor
  · intro q s hq
    obtain ⟨stream, hheap, rfl⟩ := heap_of_transportEvent hq
    have hagg := h.aggregated q stream hheap
    dsimp only
    split
    · exact aggregated_change (aggregated_clearLog hagg) (name, .event _) hopen
    · exact hagg
  · intro q s hq other
    obtain ⟨stream, hheap, rfl⟩ := heap_of_transportEvent hq
    have hold := h.values q stream hheap other
    unfold setView
    dsimp only
    -- only the view of this channel of this stream moves, as the transport does
    by_cases hp : q = p
    · subst hp
      have hmem : name ∈ (MediaWorker.clearLog stream.pc).transportController.names :=
        hname stream hheap
      rw [if_pos rfl]
      dsimp only
      rw [valuesOf_step_iceChannel hmem v other]
      by_cases hother : other = name
      · rw [if_pos hother, if_pos ⟨rfl, hother⟩]
      · rw [if_neg hother, if_neg fun hboth => hother hboth.2]
        exact hold
    · rw [if_neg hp, if_neg fun hboth => hp hboth.1]
      exact hold

/-! ### The signals of an input -/

/-- The streams that are left have the descriptions and the transports that they had. -/
def KeepsStreams (media media' : MediaWorker) : Prop :=
  ∀ q s', media'.manager.heap q = some s' → ∃ s, media.manager.heap q = some s ∧
    s'.pc.localDesc = s.pc.localDesc ∧
      s'.pc.transportController.names = s.pc.transportController.names

/-- Where nothing happens, the streams are kept. -/
theorem KeepsStreams.refl (media : MediaWorker) : KeepsStreams media media :=
  fun _ s h => ⟨s, h, rfl, rfl⟩

/-- What two steps keep is kept by both together. -/
theorem KeepsStreams.trans {m₁ m₂ m₃ : MediaWorker} (h : KeepsStreams m₁ m₂)
    (h' : KeepsStreams m₂ m₃) : KeepsStreams m₁ m₃ := by
  intro q s₃ h₃
  obtain ⟨s₂, h₂, hdesc, hnames⟩ := h' q s₃ h₃
  obtain ⟨s₁, h₁, hdesc', hnames'⟩ := h q s₂ h₂
  exact ⟨s₁, h₁, hdesc.trans hdesc', hnames.trans hnames'⟩

/-- An event at a transport makes no new stream. It changes one stream, and may remove some. -/
theorem keepsStreams_transportEvent (p : Nat) (name : Bytes) (e : TransportController.Event) :
    KeepsStreams media (media.transportEvent crypto ssl p name e) := by
  intro q s hq
  obtain ⟨stream, hheap, rfl⟩ := heap_of_transportEvent hq
  refine ⟨stream, hheap, ?_⟩
  dsimp only
  split
  · exact ⟨rfl, step_names (ssl p) _ _⟩
  · exact ⟨rfl, rfl⟩

/-- A signal says what a listener would know after it. -/
theorem channelSignal_cases (c : Ice.IceTransportChannel) (e : Ice.Entry) :
    (NetworkWorker.channelSignal c e = none ∧ (valuesOf c).hear e = valuesOf c) ∨
      NetworkWorker.channelSignal c e = some (.iceChannel ((valuesOf c).hear e).writable
        ((valuesOf c).hear e).receiving ((valuesOf c).hear e).state) := by
  cases e with
  | writable | receiving | iceState => exact .inr rfl
  | created | destroyed | pinged | answered | sent | sorted => exact .inl ⟨rfl, rfl⟩

/-- A state that is heard is not `closed`, if none is signalled. -/
theorem hear_state_ne_closed {v : ChannelValues} (hv : v.state ≠ .closed) {e : Ice.Entry}
    (he : e ≠ .iceState .closed) : (v.hear e).state ≠ .closed := by
  cases e with
  | iceState state => exact fun hclosed => he (congrArg _ hclosed)
  | writable | receiving | created | destroyed | pinged | answered | sent | sorted => exact hv

/-- What the signals of a channel leave, and what they make of the values that are known. -/
structure Signalled (ssl : Nat → SslAdapter) (view : Nat → Bytes → ChannelValues)
    (media media' : MediaWorker) : Prop where
  settled : Settled ssl media'
  follows : Follows view media'
  keeps : KeepsStreams media media'
  sent : media'.sent = media.sent

/-- Of two changes of the same values the second one is left. -/
theorem setView_setView (p : Nat) (name : Bytes) (v v' : ChannelValues) :
    setView (setView view p name v) p name v' = setView view p name v' := by
  funext q other
  unfold setView
  split
  · rfl
  · rfl

/-- Values that are set to what they are do not change. -/
theorem setView_self (p : Nat) (name : Bytes) : setView view p name (view p name) = view := by
  funext q other
  unfold setView
  split
  · rename_i h
    rw [h.1, h.2]
  · rfl

/-- One signal of a channel, heard by its transport: afterwards the transport and the controller
have the values of the channel again. A signal that is about no value is heard by nobody. -/
theorem signalled_entry (h : Settled ssl media) (hfollows : Follows view media) {p : Nat}
    {name : Bytes} (hname : ∀ stream, media.manager.heap p = some stream →
      name ∈ stream.pc.transportController.names)
    {e : Ice.Entry} (hopen : ((view p name).hear e).state ≠ .closed) :
    Signalled ssl (setView view p name ((view p name).hear e)) media
      (NetworkWorker.signalled crypto ssl p name media e) := by
  unfold NetworkWorker.signalled
  cases hheap : media.manager.heap p with
  | none =>
      -- the stream is gone, and nothing is said about it
      refine ⟨h, ⟨hfollows.aggregated, fun q s hq other => ?_⟩, .refl media, rfl⟩
      have hne : q ≠ p := by
        rintro rfl
        rw [hheap] at hq
        cases hq
      unfold setView
      rw [if_neg fun hboth => hne hboth.1]
      exact hfollows.values q s hq other
  | some stream =>
      have hvalues := hfollows.values p stream hheap name
      dsimp only
      rcases channelSignal_cases (stream.pc.transportController.transports name).channel e with
        ⟨hnone, hsame⟩ | hsome
      · rw [hnone]
        rw [hvalues] at hsame
        rw [hsame, setView_self]
        exact ⟨h, hfollows, .refl media, rfl⟩
      · rw [hsome, hvalues]
        dsimp only
        have harrives : ¬ Arrives stream.pc.transportController name
            (.iceChannel ((view p name).hear e).writable ((view p name).hear e).receiving
              ((view p name).hear e).state) := fun h => h
        have hstep := h.transportEvent crypto hheap harrives
        exact ⟨hstep.1, hfollows.iceChannel hname _ hopen, keepsStreams_transportEvent p name _,
          hstep.2⟩

/-- The signals of one input are handed to the worker in turn. Induction on the entries, the
earliest of which comes first. -/
theorem signalled_entries {p : Nat} {name : Bytes} (entries : List Ice.Entry)
    (hclosed : Ice.Entry.iceState .closed ∉ entries) :
    ∀ {view : Nat → Bytes → ChannelValues} {media : MediaWorker}, Settled ssl media →
      Follows view media → (view p name).state ≠ .closed →
      (∀ stream, media.manager.heap p = some stream →
        name ∈ stream.pc.transportController.names) →
      Signalled ssl (setView view p name (entries.foldl ChannelValues.hear (view p name))) media
        (entries.foldl (NetworkWorker.signalled crypto ssl p name) media) := by
  induction entries with
  | nil =>
      intro view media h hfollows _ _
      show Signalled ssl (setView view p name (view p name)) media media
      rw [setView_self]
      exact ⟨h, hfollows, .refl media, rfl⟩
  | cons e entries ih =>
      intro view media h hfollows hstate hname
      have he : e ≠ .iceState .closed := fun heq => hclosed (heq ▸ List.mem_cons_self)
      have hstate' := hear_state_ne_closed hstate he
      have hfirst : Signalled ssl (setView view p name ((view p name).hear e)) media
          (NetworkWorker.signalled crypto ssl p name media e) :=
        signalled_entry h hfollows hname hstate'
      have hview : setView view p name ((view p name).hear e) p name = (view p name).hear e :=
        if_pos ⟨rfl, rfl⟩
      -- the transport is still one of the stream, if the stream is there
      have hname' : ∀ stream,
          (NetworkWorker.signalled crypto ssl p name media e).manager.heap p = some stream →
            name ∈ stream.pc.transportController.names := by
        intro stream hheap
        obtain ⟨s, hs, -, hnames⟩ := hfirst.keeps p stream hheap
        rw [hnames]
        exact hname s hs
      have hrest := ih (fun hmem => hclosed (List.mem_cons_of_mem _ hmem)) hfirst.settled
        hfirst.follows (by rw [hview]; exact hstate') hname'
      rw [hview, setView_setView] at hrest
      exact ⟨hrest.settled, hrest.follows, hfirst.keeps.trans hrest.keeps,
        hrest.sent.trans hfirst.sent⟩

/-- The new entries of a record, as a listener hears them. -/
theorem newEntries_eq {channel channel' : Ice.World} {new : List Ice.Entry}
    (h : channel'.log = new ++ channel.log) :
    NetworkWorker.newEntries channel channel' = new.reverse := by
  unfold NetworkWorker.newEntries
  rw [h, List.length_append, Nat.add_sub_cancel, List.take_left]

/-- The signals of an input bring the peer connection to what the channel has become. -/
theorem signalled_next {digest : MessageDigest} {allocator : Allocator}
    {channel channel' : Ice.World} {i : Ice.Input}
    (hnext : Ice.next digest allocator channel i = some channel') {p : Nat}
    {name : Bytes} (h : Settled ssl media) (hfollows : Follows view media)
    (hview : view p name = valuesOf channel.channel) (hstate : channel.channel.state ≠ .closed)
    (hname : ∀ stream, media.manager.heap p = some stream →
      name ∈ stream.pc.transportController.names) :
    Signalled ssl (setView view p name (valuesOf channel'.channel)) media
      ((NetworkWorker.newEntries channel channel').foldl
        (NetworkWorker.signalled crypto ssl p name) media) := by
  obtain ⟨new, hlog, hheard, hopen⟩ := Ice.tells_next hnext
  rw [newEntries_eq hlog]
  have hsignalled : Signalled ssl (setView view p name (new.reverse.foldl ChannelValues.hear
      (view p name))) media (new.reverse.foldl (NetworkWorker.signalled crypto ssl p name) media) :=
    signalled_entries new.reverse (by rwa [List.mem_reverse]) h hfollows
      (by rw [hview]; exact hstate) hname
  have hend : new.reverse.foldl ChannelValues.hear (view p name) = valuesOf channel'.channel := by
    rw [List.foldl_reverse, hview]
    exact hheard
  rwa [hend] at hsignalled

/-! ### A packet that goes up -/

/-- A packet that is handed up changes nothing in the channel: it is no STUN message, and the time
it came at is not kept. -/
theorem next_of_handsOn {digest : MessageDigest} {allocator : Allocator}
    {channel channel' : Ice.World} {port : Nat} {addr : SocketAddress} {data : Bytes} {now : Int}
    (hon : Ice.UDPPort.handsOn digest channel.toCore port addr data = true)
    (hnext : Ice.next digest allocator channel (.datagram port addr data now) = some channel') :
    channel' = channel := by
  change Ice.UDPPort.onReadPacket digest allocator channel port addr data now = some channel'
    at hnext
  unfold Ice.UDPPort.handsOn at hon
  unfold Ice.UDPPort.onReadPacket at hnext
  cases hconn : (channel.ports port).connections addr with
  | none =>
      rw [hconn] at hon
      cases hon
  | some conn =>
      rw [hconn] at hon hnext
      dsimp only at hon hnext
      split at hnext
      · cases hnext
        unfold Ice.IceConnection.handsOn at hon
        unfold Ice.IceConnection.onReadPacket
        dsimp only
        cases hmessage : Ice.UDPPort.getStunMessage digest (channel.ports (channel.heap conn).port)
            data with
        | notStun => rfl
        | rejected | accepted =>
            rw [hmessage] at hon
            cases hon
      · cases hnext

/-! ### The invariant -/

section

variable (digest : MessageDigest) (allocator : Allocator)
  (ports : Nat → Bytes → ChannelPorts) (ssl crypto ntop6)

/-- An event of the run proves a peer to a channel of a stream. -/
def ProvedTo (es : List NetworkWorker.Event) (p : Nat) (pc : PeerConnection) (name : Bytes)
    (port : Nat) (addr : SocketAddress) : Prop :=
  ∃ i, .channel p name i ∈ es ∧ Proves digest (fun _ => offeredParameters pc name) i port addr

/-- How a datagram has come about. The packet came to the source from a peer that had proved
itself by then, it went on, and it left to a peer that had proved itself to the target. -/
structure Passes (past : List NetworkWorker.Event) (w : NetworkWorker) (name : Bytes) (port : Nat)
    (addr : SocketAddress) (buf : Bytes) (d : Datagram) (source target : RtcStream PeerConnection)
    (packet : Bytes) : Prop where
  arrived : ProvedTo digest past d.forwarded.source source.pc name port addr
  forwards : Forwards ssl crypto w.media name buf d.forwarded source target packet
  data : d.packet.data = d.forwarded.data
  left : ProvedTo digest past d.forwarded.target target.pc (ascii "audio") d.packet.port
    d.packet.address

/-- A datagram passed through the server in a run. -/
def Passed (es : List NetworkWorker.Event) (d : Datagram) : Prop :=
  ∃ past rest w name port addr buf ts source target packet,
    es = past ++ .channel d.forwarded.source name (.datagram port addr buf ts) :: rest ∧
      runPartial (NetworkWorker.step crypto ssl digest ports ntop6 allocator)
        (NetworkWorker.empty ports) past = some w ∧
      Passes ssl crypto digest past w name port addr buf d source target packet

/-- What holds of a worker with its channels after a run. -/
structure NetworkInv (es : List NetworkWorker.Event) (w : NetworkWorker) : Prop where
  settled : Settled ssl w.media
  follows : Follows (fun p name => valuesOf (w.channels p name).channel) w.media
  channels : ∀ p name, Ice.Sound (w.channels p name)
  known : ∀ p stream, w.media.manager.heap p = some stream → ∀ name,
    KnownPeers (fun _ => offeredParameters stream.pc name) (ProvedTo digest es p stream.pc name)
      (w.channels p name).toCore
  datagrams : ∀ d ∈ w.datagrams, Passed ssl crypto ntop6 digest allocator ports es d

end

variable {digest : MessageDigest} {allocator : Allocator} {ports : Nat → Bytes → ChannelPorts}
  {es : List NetworkWorker.Event} {w : NetworkWorker}

/-- What has been proved to a peer stays proved. -/
theorem ProvedTo.later {p : Nat} {pc : PeerConnection} {name : Bytes} {port : Nat}
    {addr : SocketAddress} (h : ProvedTo digest es p pc name port addr)
    (e : NetworkWorker.Event) : ProvedTo digest (es ++ [e]) p pc name port addr := by
  obtain ⟨i, hi, hproves⟩ := h
  exact ⟨i, List.mem_append_left _ hi, hproves⟩

/-- A datagram that has been accounted for stays so. -/
theorem Passed.later {d : Datagram} (h : Passed ssl crypto ntop6 digest allocator ports es d)
    (e : NetworkWorker.Event) : Passed ssl crypto ntop6 digest allocator ports (es ++ [e]) d := by
  obtain ⟨past, rest, w, name, port, addr, buf, ts, source, target, packet, rfl, hrun,
    hpasses⟩ := h
  refine ⟨past, rest ++ [e], w, name, port, addr, buf, ts, source, target, packet, ?_, hrun,
    hpasses⟩
  simp

/-- An event that does nothing. -/
theorem NetworkInv.later (h : NetworkInv ssl crypto ntop6 digest allocator ports es w)
    (e : NetworkWorker.Event) :
    NetworkInv ssl crypto ntop6 digest allocator ports (es ++ [e]) w where
  settled := h.settled
  follows := h.follows
  channels := h.channels
  known p stream hheap name := (h.known p stream hheap name).mono fun _ _ hproved => hproved.later e
  datagrams d hd := (h.datagrams d hd).later e

/-- The parameters of a channel are read off the local description, and nothing else of a
connection. -/
theorem offeredParameters_congr {pc pc' : PeerConnection} (h : pc'.localDesc = pc.localDesc)
    (name : Bytes) : offeredParameters pc' name = offeredParameters pc name := by
  unfold offeredParameters
  rw [h]

/-- The invariant holds before the first event: there is no stream, no channel and no datagram. -/
theorem networkInv_empty :
    NetworkInv ssl crypto ntop6 digest allocator ports [] (NetworkWorker.empty ports) where
  settled := settled_empty
  follows := by
    constructor
    · intro p stream h
      cases h
    · intro p stream h
      cases h
  channels p name := Ice.sound_init _ _ _
  known p stream h := by cases h
  datagrams d hd := by cases hd

/-! ### Messages -/

/-- A new peer connection: nothing has happened to its transports. -/
theorem offered_new {pc : PeerConnection} (h : Offered ntop6 pc) :
    Aggregated pc.transportController ∧
      ∀ name, (pc.transportController.transports name).channel = {} := by
  obtain ⟨start, draw, certificate, options, hstart, rfl⟩ := h
  have hcontroller : (initPeerConnection start certificate).transportController
      = freshController (certificate.map LocalCertificate.certificate) := by
    unfold initPeerConnection freshController
    rw [hstart]
  have hnew : AllNew (freshController (certificate.map LocalCertificate.certificate)) :=
    ⟨fun _ => ⟨rfl, rfl⟩, rfl, rfl⟩
  unfold PeerConnection.createOffer
  split
  · rw [hcontroller]
    exact ⟨hnew.aggregated, fun _ => rfl⟩
  · dsimp only
    unfold TransportController.setLocalDescription
    rw [hcontroller]
    exact ⟨(hnew.addTransports _).aggregated, addTransports_channel _⟩

/-- A step of a peer connection that is not a signal of a channel. -/
theorem streamStep_values {e : MediaWorker.Event} (he : NetworkWorker.fromChannel e = false)
    {p : Nat} {stream s : RtcStream PeerConnection} (h : StreamStep ssl e p stream s)
    (hagg : Aggregated stream.pc.transportController) :
    Aggregated s.pc.transportController ∧ s.pc.localDesc = stream.pc.localDesc ∧
      ∀ name, valuesOf (s.pc.transportController.transports name).channel
        = valuesOf (stream.pc.transportController.transports name).channel := by
  cases h with
  | same => exact ⟨hagg, rfl, fun _ => rfl⟩
  | event name ev heq =>
      -- only events above the channels are left
      have hupper : IsUpper ev := by
        cases ev with
        | iceChannel =>
            rw [heq] at he
            cases he
        | readPacket | dtlsEvent | setRemoteFingerprint => rfl
      refine ⟨?_, rfl, fun other => ?_⟩
      · apply aggregated_change (aggregated_clearLog hagg) (name, .event ev)
        cases ev with
        | iceChannel => cases hupper
        | readPacket | dtlsEvent | setRemoteFingerprint => trivial
      · dsimp only
        rw [step_channel hupper]
        rfl
  -- an answer sets parameters, and leaves the values of the channels
  | answer _ hsdp =>
      have hdesc := setRemoteSdp_localDesc hsdp
      refine ⟨?_, hdesc, fun other => ?_⟩
      · rcases setRemoteSdp_controller hsdp with hsame | ⟨desc, hdesc⟩
        · rw [hsame]
          exact aggregated_clearLog hagg
        · exact (setRemoteDescription_values hdesc (aggregated_clearLog hagg)).1
      · rcases setRemoteSdp_controller hsdp with hsame | ⟨desc, hdesc⟩
        · rw [hsame]
          rfl
        · exact (setRemoteDescription_values hdesc (aggregated_clearLog hagg)).2 other

/-- A message, a timer or an event of an adapter keeps the invariant. A stream that such an event
creates gets its channels, and those of the other streams stay. What is forwarded is sent on the
channels as they are. -/
theorem NetworkInv.workerEvent (h : NetworkInv ssl crypto ntop6 digest allocator ports es w)
    {e : MediaWorker.Event} {w' : NetworkWorker}
    (hstep : w.workerEvent crypto ssl ports ntop6 e = some w') :
    NetworkInv ssl crypto ntop6 digest allocator ports (es ++ [.worker e]) w' := by
  unfold NetworkWorker.workerEvent at hstep
  split at hstep
  · cases hstep
  rename_i he
  have he' : NetworkWorker.fromChannel e = false := by simpa using he
  obtain ⟨media', hmedia, rfl⟩ := Option.map_eq_some_iff.mp hstep
  -- such an event sends nothing
  have hsent : media'.sent = w.media.sent := by
    rcases sent_step h.settled hmedia with ⟨x, ⟨name, buf, ts, _, _, _, heq, _⟩, _⟩ | ⟨hsent, -⟩
    · rw [heq] at he'
      cases he'
    · exact hsent
  have hdatagrams : (w.update media' (w.createChannels ports media')).datagrams = w.datagrams := by
    show w.datagrams ++ NetworkWorker.transmit _ (media'.sent.drop w.media.sent.length) = _
    rw [hsent, List.drop_length]
    exact List.append_nil _
  -- where a stream comes from, and what its channels are
  have hstream : ∀ q s, media'.manager.heap q = some s →
      (Offered ntop6 s.pc ∧ ∀ name, w.createChannels ports media' q name
          = NetworkWorker.createChannel ports q name s.pc) ∨
        ∃ stream, w.media.manager.heap q = some stream ∧ StreamStep ssl e q stream s ∧
          ∀ name, w.createChannels ports media' q name = w.channels q name := by
    intro q s hq
    rcases heap_of_step h.settled.inv.entries hmedia hq with ⟨rfl, hnew⟩ | ⟨stream, hheap, hpc⟩
    · refine .inl ⟨offered_of_created hnew, fun name => ?_⟩
      unfold NetworkWorker.createChannels
      rw [if_neg (Nat.lt_irrefl _), hq]
    · refine .inr ⟨stream, hheap, hpc, fun name => ?_⟩
      unfold NetworkWorker.createChannels
      rw [if_pos (h.settled.inv.entries.lt_next hheap)]
  constructor
  · exact settled_step ntop6 crypto hmedia h.settled
  · constructor
    · intro q s hq
      rcases hstream q s hq with ⟨hnew, -⟩ | ⟨stream, hheap, hpc, -⟩
      · exact (offered_new hnew).1
      · exact (streamStep_values he' hpc (h.follows.aggregated q stream hheap)).1
    · intro q s hq name
      show _ = valuesOf (w.createChannels ports media' q name).channel
      rcases hstream q s hq with ⟨hnew, hchannel⟩ | ⟨stream, hheap, hpc, hchannel⟩
      · rw [hchannel, (offered_new hnew).2]
        rfl
      · rw [hchannel, (streamStep_values he' hpc (h.follows.aggregated q stream hheap)).2.2]
        exact h.follows.values q stream hheap name
  · intro q name
    show Ice.Sound (w.createChannels ports media' q name)
    unfold NetworkWorker.createChannels
    split
    · exact h.channels q name
    · split
      · exact h.channels q name
      · exact Ice.sound_init _ _ _
  · intro q s hq name
    show KnownPeers _ _ (w.createChannels ports media' q name).toCore
    rcases hstream q s hq with ⟨hnew, hchannel⟩ | ⟨stream, hheap, hpc, hchannel⟩
    · rw [hchannel]
      exact Ice.knownPeers_init _ _ _ _
    · have hdesc := (streamStep_values he' hpc (h.follows.aggregated q stream hheap)).2.1
      have hknown := (h.known q stream hheap name).mono
        fun _ _ hproved => hproved.later (.worker e)
      rw [hchannel]
      unfold ProvedTo at hknown ⊢
      rw [offeredParameters_congr hdesc]
      exact hknown
  · intro d hd
    rw [hdatagrams] at hd
    exact (h.datagrams d hd).later _

/-! ### Inputs of a channel -/

/-- The channels with another one in one place. -/
def withChannel (w : NetworkWorker) (p : Nat) (name : Bytes) (channel' : Ice.World) :
    Nat → Bytes → Ice.World :=
  fun q other => if q = p ∧ other = name then channel' else w.channels q other

/-- The values of the channels, with those of the new one. -/
theorem valuesOf_withChannel (p : Nat) (name : Bytes) (channel' : Ice.World) :
    (fun q other => valuesOf (withChannel w p name channel' q other).channel)
      = setView (fun q other => valuesOf (w.channels q other).channel) p name
          (valuesOf channel'.channel) := by
  funext q other
  unfold withChannel setView
  dsimp only
  split
  · rfl
  · rfl

/-- A channel that is set to what it is does not change. -/
theorem withChannel_self (p : Nat) (name : Bytes) :
    withChannel w p name (w.channels p name) = w.channels := by
  funext q other
  unfold withChannel
  split
  · rename_i h
    rw [h.1, h.2]
  · rfl

/-- The other parts of the invariant, after an input: the channel is sound, and a peer that it
knows has proved itself by one of the inputs so far. -/
theorem NetworkInv.nextChannel (h : NetworkInv ssl crypto ntop6 digest allocator ports es w)
    {p : Nat} {name : Bytes} {i : Ice.Input} {channel' : Ice.World}
    (hnext : Ice.next digest allocator (w.channels p name) i = some channel')
    {media' : MediaWorker} (hkeeps : KeepsStreams w.media media') :
    (∀ q other, Ice.Sound (withChannel w p name channel' q other)) ∧
      ∀ q s, media'.manager.heap q = some s → ∀ other,
        KnownPeers (fun _ => offeredParameters s.pc other)
          (ProvedTo digest (es ++ [.channel p name i]) q s.pc other)
          (withChannel w p name channel' q other).toCore := by
  constructor
  · intro q other
    unfold withChannel
    split
    · exact Ice.sound_next hnext (h.channels p name)
    · exact h.channels q other
  · intro q s' hq other
    obtain ⟨s, hs, hdesc, -⟩ := hkeeps q s' hq
    have hknown := h.known q s hs other
    unfold ProvedTo at hknown ⊢
    rw [offeredParameters_congr hdesc]
    unfold withChannel
    split
    · rename_i hboth
      obtain ⟨rfl, rfl⟩ := hboth
      -- what the input proves is now among what the run has proved
      refine (Ice.knownPeers_next hknown hnext).mono fun port addr hproved => ?_
      rcases hproved with ⟨j, hj, hproves⟩ | hproves
      · exact ⟨j, List.mem_append_left _ hj, hproves⟩
      · exact ⟨i, List.mem_append_right _ (List.mem_singleton.mpr rfl), hproves⟩
    · refine hknown.mono fun port addr hproved => ?_
      obtain ⟨j, hj, hproves⟩ := hproved
      exact ⟨j, List.mem_append_left _ hj, hproves⟩

/-- An input that hands nothing up: the channel goes on, and the worker hears of what it signals.
-/
theorem NetworkInv.signals (h : NetworkInv ssl crypto ntop6 digest allocator ports es w)
    {p : Nat} {stream : RtcStream PeerConnection} (hheap : w.media.manager.heap p = some stream)
    {name : Bytes} (hname : name ∈ stream.pc.transportController.names) {i : Ice.Input}
    {channel' : Ice.World}
    (hnext : Ice.next digest allocator (w.channels p name) i = some channel') :
    NetworkInv ssl crypto ntop6 digest allocator ports (es ++ [.channel p name i])
      (w.update ((NetworkWorker.newEntries (w.channels p name) channel').foldl
        (NetworkWorker.signalled crypto ssl p name) w.media) (withChannel w p name channel')) := by
  have hstate : (w.channels p name).channel.state ≠ .closed := by
    rw [(h.channels p name).derived.state]
    exact Ice.computeIceTransportState_ne_closed _
  have hnames : ∀ s, w.media.manager.heap p = some s →
      name ∈ s.pc.transportController.names := by
    intro s hs
    rw [hheap] at hs
    cases hs
    exact hname
  have hsignalled : Signalled ssl (setView _ p name _) w.media
      ((NetworkWorker.newEntries (w.channels p name) channel').foldl
        (NetworkWorker.signalled crypto ssl p name) w.media) :=
    signalled_next hnext h.settled h.follows rfl hstate hnames
  obtain ⟨hchannels, hknown⟩ := h.nextChannel hnext hsignalled.keeps
  refine ⟨hsignalled.settled, ?_, hchannels, hknown, fun d hd => ?_⟩
  · show Follows (fun q other => valuesOf (withChannel w p name channel' q other).channel) _
    rw [valuesOf_withChannel]
    exact hsignalled.follows
  · -- a signal sends nothing
    change d ∈ w.datagrams ++ NetworkWorker.transmit _ (List.drop _ _) at hd
    rw [hsignalled.sent, List.drop_length] at hd
    rcases List.mem_append.mp hd with hold | hnew
    · exact (h.datagrams d hold).later _
    · cases hnew

/-- A packet that is handed up came from a peer that the channel knows, and the worker may forward
it. The channel stays as it was. -/
theorem NetworkInv.handsUp (h : NetworkInv ssl crypto ntop6 digest allocator ports es w)
    (hreach : runPartial (NetworkWorker.step crypto ssl digest ports ntop6 allocator)
      (NetworkWorker.empty ports) es = some w)
    {p : Nat} {stream : RtcStream PeerConnection} (hheap : w.media.manager.heap p = some stream)
    {name : Bytes} {port : Nat} {addr : SocketAddress} {data : Bytes} {now : Int}
    (hon : Ice.UDPPort.handsOn digest (w.channels p name).toCore port addr data = true) :
    NetworkInv ssl crypto ntop6 digest allocator ports
      (es ++ [.channel p name (.datagram port addr data now)])
      (w.update (w.media.transportEvent crypto ssl p name (.readPacket data now)) w.channels) := by
  have hstep : w.media.step crypto ssl ntop6 (.transport p name (.readPacket data now))
      = some (w.media.transportEvent crypto ssl p name (.readPacket data now)) := rfl
  have hkeeps : KeepsStreams w.media
      (w.media.transportEvent crypto ssl p name (.readPacket data now)) :=
    keepsStreams_transportEvent p name _
  constructor
  · exact settled_step ntop6 crypto hstep h.settled
  · exact h.follows.upper rfl
  · exact h.channels
  · intro q s' hq other
    obtain ⟨s, hs, hdesc, -⟩ := hkeeps q s' hq
    have hknown := (h.known q s hs other).mono fun _ _ hproved =>
      hproved.later (.channel p name (.datagram port addr data now))
    unfold ProvedTo at hknown ⊢
    rw [offeredParameters_congr hdesc]
    exact hknown
  · intro d hd
    change d ∈ w.datagrams ++ NetworkWorker.transmit w.channels (List.drop _ _) at hd
    rcases List.mem_append.mp hd with hold | hnew
    · exact (h.datagrams d hold).later _
    -- a new datagram is the one packet that went on
    rcases sent_step h.settled hstep with ⟨x, hgoes, hone⟩ | ⟨hnone, -⟩
    · rw [hone, List.drop_left] at hnew
      obtain ⟨y, hy, hpacket⟩ := List.mem_filterMap.mp hnew
      cases List.mem_singleton.mp hy
      obtain ⟨packet, hsend, rfl⟩ := Option.map_eq_some_iff.mp hpacket
      obtain ⟨name', buf, ts, source, target, plain, heq, hforwards⟩ := hgoes
      cases heq
      have harrived := (h.known x.source source hforwards.fromSource _).handsOn hon
      obtain ⟨hdata, hleft⟩ := (h.known x.target target hforwards.toTarget
        (ascii "audio")).sendPacket hsend
      exact ⟨es, [], w, _, port, addr, _, _, source, target, plain, rfl, hreach,
        ⟨harrived, hforwards, hdata, hleft⟩⟩
    · rw [hnone, List.drop_length] at hnew
      cases hnew

/-- An input of a channel keeps the invariant. First the channel changes, then its signals reach
the transport in their order, and then the packet goes up, if it is not for the channel. -/
theorem NetworkInv.channelInput (h : NetworkInv ssl crypto ntop6 digest allocator ports es w)
    (hreach : runPartial (NetworkWorker.step crypto ssl digest ports ntop6 allocator)
      (NetworkWorker.empty ports) es = some w)
    {p : Nat} {name : Bytes} {i : Ice.Input} {w' : NetworkWorker}
    (hstep : w.channelInput crypto ssl digest allocator p name i = some w') :
    NetworkInv ssl crypto ntop6 digest allocator ports (es ++ [.channel p name i]) w' := by
  unfold NetworkWorker.channelInput at hstep
  cases hheap : w.media.manager.heap p with
  | none =>
      rw [hheap] at hstep
      cases hstep
      exact h.later _
  | some stream =>
      rw [hheap] at hstep
      dsimp only at hstep
      split at hstep
      · cases hstep
        exact h.later _
      rename_i hcontains
      have hname : name ∈ stream.pc.transportController.names := by simpa using hcontains
      split at hstep
      · cases hstep
        exact h.later _
      obtain ⟨channel', hnext, rfl⟩ := Option.map_eq_some_iff.mp hstep
      have hsignals := h.signals hheap hname hnext
      -- what is handed up decides
      cases i with
      | datagram port addr data now =>
          cases hon : Ice.UDPPort.handsOn digest (w.channels p name).toCore port addr data with
          | true =>
              have hsame := next_of_handsOn hon hnext
              subst hsame
              have hup : NetworkInv ssl crypto ntop6 digest allocator ports
                  (es ++ [.channel p name (.datagram port addr data now)])
                  (w.update _ w.channels) := h.handsUp hreach hheap hon
              rw [← withChannel_self p name] at hup
              have hnew : NetworkWorker.newEntries (w.channels p name) (w.channels p name)
                  = [] := newEntries_eq (List.nil_append _).symm
              rw [hnew]
              unfold NetworkWorker.handUp
              dsimp only
              rw [if_pos hon]
              exact hup
          | false =>
              unfold NetworkWorker.handUp
              dsimp only
              rw [hon]
              exact hsignals
      | tick now id => exact hsignals
      | setRemoteIceParams params now => exact hsignals
      | reuse heap => exact hsignals

/-! ### Runs -/

/-- So the invariant holds after every run. The induction carries the run itself along, because a
step may ask what was proved to a peer earlier. -/
theorem networkInv_of_run
    (hrun : runPartial (NetworkWorker.step crypto ssl digest ports ntop6 allocator)
      (NetworkWorker.empty ports) es = some w) :
    NetworkInv ssl crypto ntop6 digest allocator ports es w := by
  refine history_of_runPartial
    (P := fun es w => NetworkInv ssl crypto ntop6 digest allocator ports es w) ?_ networkInv_empty
    hrun
  intro past v e v' hreach hstep h
  cases e with
  | worker e => exact h.workerEvent hstep
  | channel p name i => exact h.channelInput hreach hstep

/-- Every datagram with media that the server sends came in from a peer that had proved itself
to the source, was forwarded under the keys of the two streams, and goes to a peer that had
proved itself to the target. -/
theorem datagrams_of_run
    (hrun : runPartial (NetworkWorker.step crypto ssl digest ports ntop6 allocator)
      (NetworkWorker.empty ports) es = some w) :
    ∀ d ∈ w.datagrams, Passed ssl crypto ntop6 digest allocator ports es d :=
  (networkInv_of_run hrun).datagrams

/-- What a stream that can be found has in one of its channels. -/
structure Carried (digest : MessageDigest) (es : List NetworkWorker.Event) (p : Nat)
    (stream : RtcStream PeerConnection) (state : PeerConnectionState) (name : Bytes)
    (channel : Ice.World) : Prop where
  alive : channel.channel.hadConnection = true →
    ∃ conn ∈ channel.live, (channel.heap conn).active = true
  connected : state = .connected → ∃ conn ∈ channel.live,
    channel.channel.selectedConnection = some conn ∧ (channel.heap conn).writable = true ∧
      ProvedTo digest es p stream.pc name (channel.heap conn).port
        (channel.heap conn).remoteCandidate.address

/-- No stream is kept whose peers are gone. A stream that can be found has an active connection
in every channel that has ever had one. While it is connected every channel has a writable
connection to a peer that has proved itself. -/
theorem channels_of_run
    (hrun : runPartial (NetworkWorker.step crypto ssl digest ports ntop6 allocator)
      (NetworkWorker.empty ports) es = some w) {t : RtcStreamType} {streamName : String} {p : Nat}
    (hfound : w.media.manager.streams t streamName = some p) :
    ∃ stream, w.media.manager.heap p = some stream ∧
      ∀ name ∈ stream.pc.transportController.names,
        Carried digest es p stream (w.media.state p) name (w.channels p name) := by
  have h := networkInv_of_run hrun
  obtain ⟨stream, hheap, -, -⟩ := h.settled.inv.entries.entry t streamName p hfound
  have hagg := h.follows.aggregated p stream hheap
  have hstate : w.media.state p = stream.pc.transportController.computePcState := by
    rw [h.settled.linked p stream hheap, hagg.pcState]
  refine ⟨stream, hheap, fun name hname => ?_⟩
  have hsound := h.channels p name
  -- the state of the channel, as the peer connection has heard it
  have hvalues : (stream.pc.transportController.transports name).channel.state
      = Ice.IceTransportChannel.computeIceTransportState (w.channels p name).toCore := by
    rw [← hsound.derived.state]
    exact congrArg ChannelValues.state (h.follows.values p stream hheap name)
  constructor
  · intro hhad
    have hne := h.settled.inv.healthy t streamName p hfound
    rw [hstate] at hne
    have hfailed := channelState_of_not_failed hne hname
    rw [hvalues] at hfailed
    obtain ⟨conn, hconn, hactive⟩ := Ice.active_of_not_failed hfailed hhad
    exact ⟨conn, (hsound.members conn).mp hconn, hactive⟩
  · intro hconnected
    rw [hstate] at hconnected
    have hmem := channelState_of_connected hconnected hname
    rw [hvalues] at hmem
    have hwritable := Ice.writable_of_connected hmem
    rw [hsound.derived.writable] at hwritable
    unfold Ice.IceTransportChannel.computeWritable at hwritable
    split at hwritable
    · cases hwritable
    · rename_i conn hselected
      have hlive := hsound.selected conn hselected
      exact ⟨conn, hlive, hselected, hwritable, (h.known p stream hheap name).placed conn hlive⟩

/-! ### The worker without its network -/

/-- The streams of a worker go from one state to another by events of their own. -/
def Reaches (ssl : Nat → SslAdapter) (crypto : SrtpCrypto) (ntop6 : Vector UInt8 16 → Bytes)
    (media media' : MediaWorker) : Prop :=
  ∃ fs, runPartial (MediaWorker.step crypto ssl ntop6) media fs = some media'

/-- No event is a run. -/
theorem Reaches.refl (media : MediaWorker) : Reaches ssl crypto ntop6 media media := ⟨[], rfl⟩

/-- Two runs one after the other are a run. -/
theorem Reaches.trans {m₁ m₂ m₃ : MediaWorker} (h : Reaches ssl crypto ntop6 m₁ m₂)
    (h' : Reaches ssl crypto ntop6 m₂ m₃) : Reaches ssl crypto ntop6 m₁ m₃ := by
  obtain ⟨fs, hfs⟩ := h
  obtain ⟨gs, hgs⟩ := h'
  exact ⟨fs ++ gs, by rw [runPartial_append hfs, hgs]⟩

/-- One event is a run. -/
theorem reaches_step {e : MediaWorker.Event} {media' : MediaWorker}
    (h : media.step crypto ssl ntop6 e = some media') : Reaches ssl crypto ntop6 media media' :=
  ⟨[e], by rw [runPartial_cons h]; rfl⟩

/-- A signal of a channel is an event of the worker without channels, or none. -/
theorem reaches_signalled (p : Nat) (name : Bytes) (e : Ice.Entry) :
    Reaches ssl crypto ntop6 media (NetworkWorker.signalled crypto ssl p name media e) := by
  unfold NetworkWorker.signalled
  split
  · exact .refl media
  · split
    · exact .refl media
    · rename_i ev _
      exact reaches_step (e := .transport p name ev) rfl

/-- So the signals of an input are a run of it. -/
theorem reaches_entries (p : Nat) (name : Bytes) (entries : List Ice.Entry) :
    ∀ media : MediaWorker, Reaches ssl crypto ntop6 media
      (entries.foldl (NetworkWorker.signalled crypto ssl p name) media) := by
  induction entries with
  | nil => exact fun media => .refl media
  | cons e entries ih => exact fun media => (reaches_signalled p name e).trans (ih _)

/-- A packet that goes up is an event of it, too. -/
theorem reaches_handUp (p : Nat) (name : Bytes) (channel : Ice.World) (i : Ice.Input) :
    Reaches ssl crypto ntop6 media
      (NetworkWorker.handUp crypto ssl digest p name channel media i) := by
  cases i with
  | datagram port addr data now =>
      unfold NetworkWorker.handUp
      dsimp only
      split
      · exact reaches_step (e := .transport p name (.readPacket data now)) rfl
      · exact .refl media
  | tick | setRemoteIceParams | reuse => exact .refl media

/-- The datagrams of some packets, seen as packets. -/
theorem sublist_transmit (channels : Nat → Bytes → Ice.World) (forwarded : List ForwardedPacket) :
    ((NetworkWorker.transmit channels forwarded).map Datagram.forwarded).Sublist forwarded := by
  unfold NetworkWorker.transmit
  induction forwarded with
  | nil => exact List.Sublist.slnil
  | cons x forwarded ih =>
      rw [List.filterMap_cons]
      cases hsend : Ice.IceTransportChannel.sendPacket (channels x.target (ascii "audio")).toCore
          x.data with
      | none => exact ih.cons x
      | some packet => exact ih.cons_cons x

/-- What the network adds to the streams of a worker. -/
structure Relayed (ssl : Nat → SslAdapter) (crypto : SrtpCrypto)
    (ntop6 : Vector UInt8 16 → Bytes) (w : NetworkWorker) : Prop where
  reaches : Reaches ssl crypto ntop6 {} w.media
  sublist : (w.datagrams.map Datagram.forwarded).Sublist w.media.sent

/-- The streams move on, and what they have forwarded is sent. -/
theorem Relayed.update (h : Relayed ssl crypto ntop6 w) {media' : MediaWorker}
    (hreaches : Reaches ssl crypto ntop6 w.media media') (channels : Nat → Bytes → Ice.World) :
    Relayed ssl crypto ntop6 (w.update media' channels) := by
  obtain ⟨es, hes⟩ := h.reaches
  obtain ⟨fs, hfs⟩ := hreaches
  obtain ⟨xs, -, hsent⟩ := flow_of_settled (settled_of_run ntop6 crypto hes) hfs
  constructor
  · exact ⟨es ++ fs, by rw [runPartial_append hes, hfs]; rfl⟩
  · show ((w.datagrams ++ NetworkWorker.transmit channels
      (media'.sent.drop w.media.sent.length)).map Datagram.forwarded).Sublist media'.sent
    rw [hsent, List.drop_left, List.map_append]
    exact h.sublist.append (sublist_transmit channels xs)

/-- Every event of the worker with channels is a run of the worker without them, and what it sends
is a part of what that run forwards. -/
theorem relayed_step {e : NetworkWorker.Event} {w' : NetworkWorker}
    (hstep : w.step crypto ssl digest ports ntop6 allocator e = some w')
    (h : Relayed ssl crypto ntop6 w) : Relayed ssl crypto ntop6 w' := by
  cases e with
  | worker e =>
      change w.workerEvent crypto ssl ports ntop6 e = some w' at hstep
      -- an event that comes from a channel is not handed in
      unfold NetworkWorker.workerEvent at hstep
      split at hstep
      · cases hstep
      obtain ⟨media', hmedia, rfl⟩ := Option.map_eq_some_iff.mp hstep
      exact h.update (reaches_step hmedia) _
  | channel p name i =>
      change w.channelInput crypto ssl digest allocator p name i = some w' at hstep
      -- what a channel hands up is a run of transport events
      unfold NetworkWorker.channelInput at hstep
      cases hheap : w.media.manager.heap p with
      | none =>
          rw [hheap] at hstep
          cases hstep
          exact h
      | some stream =>
          rw [hheap] at hstep
          dsimp only at hstep
          split at hstep
          · cases hstep
            exact h
          split at hstep
          · cases hstep
            exact h
          obtain ⟨channel', -, rfl⟩ := Option.map_eq_some_iff.mp hstep
          exact h.update ((reaches_entries p name _ _).trans (reaches_handUp p name _ i)) _

/-- The network hides nothing and adds nothing. Every run of a worker with its channels is a run
of its streams, and what is sent is what the streams forward, in their order, once each at most. -/
theorem relayed_of_run
    (hrun : runPartial (NetworkWorker.step crypto ssl digest ports ntop6 allocator)
      (NetworkWorker.empty ports) es = some w) : Relayed ssl crypto ntop6 w := by
  have hempty : Relayed ssl crypto ntop6 (NetworkWorker.empty ports) :=
    ⟨.refl {}, List.Sublist.slnil⟩
  exact invariant_of_runPartial (fun _ _ _ hstep h => relayed_step hstep h) hempty hrun

/-! #### A packet that is relayed -/

/-- Channels in fresh memory. -/
def freshPorts : Nat → Bytes → ChannelPorts :=
  fun _ _ => ⟨fun _ => { port := 0, remoteCandidate := Ice.noCandidate }, fun _ => Ice.noCandidate⟩

/-- The client of a stream answers the offer, asks for a connection, is pinged and answers, and
ends its handshake. -/
def clientEvents (p : Nat) : List NetworkWorker.Event :=
  [.worker (.transport p (ascii "audio") (.setRemoteFingerprint (ascii "sha-256") [1]))] ++
    Ice.answeredInputs.map (.channel p (ascii "audio")) ++
    [.worker (.transport p (ascii "audio") (.dtlsEvent ⟨true, none, none⟩))]

/-- A push stream and a pull stream of one name, and a packet from the first client. -/
def relayEvents : List NetworkWorker.Event :=
  let certificate := some ⟨0, some ⟨ascii "sha-256", [1]⟩⟩
  let draw := ⟨⟨ascii "l", ascii "lp"⟩, fun _ => []⟩
  [.worker (.push 1 "s" true true 0 certificate draw)] ++ clientEvents 0 ++
    [.worker (.pull 2 "s" true true 0 certificate draw)] ++ clientEvents 1 ++
    [.channel 0 (ascii "audio") (.datagram 0 Ice.peerAddress taggedPacket 1020)]

/-- The run of these events. -/
def relayRun (es : List NetworkWorker.Event) : Option NetworkWorker :=
  runPartial (NetworkWorker.step tagCrypto (fun _ => quietAdapter) Ice.answerDigest freshPorts
    (fun _ => []) Ice.nextFree) (NetworkWorker.empty freshPorts) es

/-- The run of the example, up to its end: one packet has come in and gone out. -/
theorem relayRun_relayEvents : ∃ w, relayRun relayEvents = some w ∧
    w.datagrams = [⟨⟨0, 1, .rtp, taggedPacket⟩, ⟨0, Ice.peerAddress, taggedPacket⟩⟩] ∧
      w.media.manager.streams .push "s" = some 0 ∧ w.media.state 0 = .connected := by
  have hrun : (relayRun relayEvents).map (fun w =>
      (w.datagrams, w.media.manager.streams .push "s", w.media.state 0))
        = some ([⟨⟨0, 1, .rtp, taggedPacket⟩, ⟨0, Ice.peerAddress, taggedPacket⟩⟩], some 0,
            .connected) := by
    decide +kernel
  obtain ⟨w, hw, heq⟩ := Option.map_eq_some_iff.mp hrun
  simp only [Prod.mk.injEq] at heq
  exact ⟨w, hw, heq⟩

/-- The packet reaches the second client. -/
theorem datagrams_of_relayEvents : ∃ (w : NetworkWorker) (d : Datagram), d ∈ w.datagrams ∧
    Passed (fun _ => quietAdapter) tagCrypto (fun _ => []) Ice.answerDigest Ice.nextFree freshPorts
      relayEvents d := by
  obtain ⟨w, hrun, hdatagrams, -⟩ := relayRun_relayEvents
  have hmem : (⟨⟨0, 1, .rtp, taggedPacket⟩, ⟨0, Ice.peerAddress, taggedPacket⟩⟩ : Datagram)
      ∈ w.datagrams := by
    rw [hdatagrams]
    exact List.mem_singleton.mpr rfl
  exact ⟨w, _, hmem, datagrams_of_run hrun _ hmem⟩

/-- The one packet that the streams forward is the one that is sent. -/
theorem relayed_of_relayEvents : ∃ w : NetworkWorker,
    w.datagrams.map Datagram.forwarded = [⟨0, 1, .rtp, taggedPacket⟩] ∧
      Relayed (fun _ => quietAdapter) tagCrypto (fun _ => []) w := by
  obtain ⟨w, hrun, hdatagrams, -⟩ := relayRun_relayEvents
  refine ⟨w, ?_, relayed_of_run hrun⟩
  rw [hdatagrams]
  rfl

/-- The push stream is connected. -/
theorem channels_of_relayEvents : ∃ (w : NetworkWorker) (stream : RtcStream PeerConnection),
    w.media.manager.heap 0 = some stream ∧ w.media.state 0 = .connected ∧
      ∀ name ∈ stream.pc.transportController.names,
        Carried Ice.answerDigest relayEvents 0 stream (w.media.state 0) name
          (w.channels 0 name) := by
  obtain ⟨w, hrun, -, hfound, hconnected⟩ := relayRun_relayEvents
  obtain ⟨stream, hheap, hcarried⟩ := channels_of_run hrun hfound
  exact ⟨w, stream, hheap, hconnected, hcarried⟩

end Xrtc.Proofs.Stream
