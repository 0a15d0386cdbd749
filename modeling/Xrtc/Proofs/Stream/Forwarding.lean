import Xrtc.Proofs.Stream.MediaWorker

/-!
# `Xrtc.Proofs.Stream.Forwarding`: what a worker sends on

`Forwards w name buf x` says that the packet `buf` at the transport `name` of the stream
`x.source` goes on as `x`. The transport is connected and opens the packet with the keys of
its DTLS session. The stream `x.target` can be found under the name of the source, it is of
the other type, and the transport of its audio section protects the packet with the keys of
its own DTLS session. Only RTCP goes from a pull stream to its push stream.

`sent_step` shows that an event sends the packet that forwards, and nothing if there is none.
`flow_of_run` puts the steps of a run together. What a worker has sent is the packets that
forwarded, each one once and in their order.

`Grown` is what an event does to the streams there are: it may remove them, and it leaves
their names, their types and their media as they are.
-/

set_option autoImplicit false

namespace Xrtc.Proofs.Stream

open Xrtc.Lib
open Xrtc.Ice (ascii)
open Xrtc.Pc
open Xrtc.Stream
open Xrtc.Proofs.Pc

/-- The types of streams between which a packet of a kind may pass. -/
def MayPass (kind : MediaKind) : RtcStreamType → RtcStreamType → Prop
  | .push, .pull => True
  | .pull, .push => kind = .rtcp
  | _, _ => False

/-- A controller takes a packet of a kind out of what arrives at one of its transports. `n` is
the number of the call of libsrtp. -/
structure Receives (ssl : SslAdapter) (crypto : SrtpCrypto) (n : Nat) (c : TransportController)
    (name buf : Bytes) (kind : MediaKind) (packet : Bytes) : Prop where
  transport : name ∈ c.names
  handsUp : HandsUp (c.transports name).dtls buf
  packetType : Rtp.RtpUtils.inferRtpPacketType buf = kind.packetType
  keys : ∃ recvKey sendKey, Secured ssl (c.transports name) recvKey sendKey ∧
    crypto.unprotect n kind recvKey buf = some packet

/-- A controller hands a packet to the ICE channel of its audio section. -/
structure Sends (ssl : SslAdapter) (crypto : SrtpCrypto) (n : Nat) (c : TransportController)
    (kind : MediaKind) (packet data : Bytes) : Prop where
  transport : ascii "audio" ∈ c.names
  keys : ∃ recvKey sendKey, Secured ssl (c.transports (ascii "audio")) recvKey sendKey ∧
    crypto.protect n kind sendKey packet = some data

/-- The packet `buf` goes on as `x`. -/
structure Forwards (ssl : Nat → SslAdapter) (crypto : SrtpCrypto) (w : MediaWorker)
    (name buf : Bytes) (x : ForwardedPacket) (source target : RtcStream PeerConnection)
    (packet : Bytes) : Prop where
  fromSource : w.manager.heap x.source = some source
  toTarget : w.manager.heap x.target = some target
  mayPass : MayPass x.kind source.streamType target.streamType
  streamName : target.streamName = source.streamName
  found : w.manager.streams target.streamType target.streamName = some x.target
  receives : Receives (ssl x.source) crypto w.cryptoCalls source.pc.transportController name buf
    x.kind packet
  sends : Sends (ssl x.target) crypto (w.cryptoCalls + 1) target.pc.transportController x.kind
    packet x.data

/-- The event is a packet that goes on as `x`. -/
def GoesOn (ssl : Nat → SslAdapter) (crypto : SrtpCrypto) (w : MediaWorker)
    (e : MediaWorker.Event) (x : ForwardedPacket) : Prop :=
  ∃ name buf ts source target packet, e = .transport x.source name (.readPacket buf ts) ∧
    Forwards ssl crypto w name buf x source target packet

/-- The packets that go on over a run of events. -/
inductive Flow (ssl : Nat → SslAdapter) (crypto : SrtpCrypto) (ntop6 : Vector UInt8 16 → Bytes) :
    MediaWorker → List MediaWorker.Event → List ForwardedPacket → Prop where
  | done (w : MediaWorker) : Flow ssl crypto ntop6 w [] []
  | forwarded {w w' : MediaWorker} {e : MediaWorker.Event} {es : List MediaWorker.Event}
      {x : ForwardedPacket} {xs : List ForwardedPacket} :
      GoesOn ssl crypto w e x → w.step crypto ssl ntop6 e = some w' →
        Flow ssl crypto ntop6 w' es xs → Flow ssl crypto ntop6 w (e :: es) (x :: xs)
  | silent {w w' : MediaWorker} {e : MediaWorker.Event} {es : List MediaWorker.Event}
      {xs : List ForwardedPacket} :
      (∀ x, ¬ GoesOn ssl crypto w e x) → w.step crypto ssl ntop6 e = some w' →
        Flow ssl crypto ntop6 w' es xs → Flow ssl crypto ntop6 w (e :: es) xs

variable {ssl : Nat → SslAdapter} {crypto : SrtpCrypto} {ntop6 : Vector UInt8 16 → Bytes}
  {w : MediaWorker}

/-! ### A packet for SRTP -/

/-- The manager sends a packet to the stream that can be found under the name of the source. -/
theorem destination_eq_some {m : RtcStreamManager PeerConnection} (h : Entries m)
    {source : RtcStream PeerConnection} {kind : MediaKind} {q : Nat} :
    m.destination source kind = some q ↔
      ∃ target, m.heap q = some target ∧ MayPass kind source.streamType target.streamType ∧
        target.streamName = source.streamName ∧
        m.streams target.streamType target.streamName = some q := by
  have hfound : ∀ t, m.streams t source.streamName = some q ↔
      ∃ target, m.heap q = some target ∧ target.streamType = t ∧
        target.streamName = source.streamName ∧
        m.streams target.streamType target.streamName = some q := by
    intro t
    constructor
    · intro hq
      obtain ⟨target, hheap, htype, hname⟩ := h.entry t _ q hq
      exact ⟨target, hheap, htype, hname, by rw [htype, hname, hq]⟩
    · rintro ⟨target, -, rfl, hname, hq⟩
      rw [← hname, hq]
  -- which map is asked
  have hdest : m.destination source kind = some q ↔
      ∃ t, MayPass kind source.streamType t ∧ m.streams t source.streamName = some q := by
    constructor
    · intro hq
      cases hkind : kind <;> cases htype : source.streamType <;>
        simp only [hkind, RtcStreamManager.destination, RtcStreamManager.onRtpPacketReceived,
          RtcStreamManager.onRtcpPacketReceived, htype] at hq
      · exact ⟨.pull, trivial, hq⟩
      · cases hq
      · exact ⟨.pull, trivial, hq⟩
      · exact ⟨.push, rfl, hq⟩
    · rintro ⟨t, hpass, hq⟩
      cases htype : source.streamType <;> cases t <;> rw [htype] at hpass
      · cases hpass
      · cases kind <;>
          simp only [RtcStreamManager.destination, RtcStreamManager.onRtpPacketReceived,
            RtcStreamManager.onRtcpPacketReceived, htype] <;> exact hq
      · cases hpass
        simp only [RtcStreamManager.destination, RtcStreamManager.onRtcpPacketReceived, htype]
        exact hq
      · cases hpass
  rw [hdest]
  constructor
  · rintro ⟨t, hpass, hq⟩
    obtain ⟨target, hheap, rfl, hrest⟩ := (hfound t).mp hq
    exact ⟨target, hheap, hpass, hrest⟩
  · rintro ⟨target, hheap, hpass, hname, hq⟩
    exact ⟨_, hpass, (hfound _).mpr ⟨target, hheap, rfl, hname, hq⟩⟩

/-- A packet that is handed up is sent on if it forwards, and dropped otherwise. -/
theorem sent_onReadPacket (h : WorkerInv ssl w) {p : Nat} {source : RtcStream PeerConnection}
    (hheap : w.manager.heap p = some source) {name buf : Bytes} {ts : Int}
    (harrives : Arrives source.pc.transportController name (.readPacket buf ts)) :
    (∃ x target packet, x.source = p ∧ Forwards ssl crypto w name buf x source target packet ∧
        (w.onReadPacket crypto p name buf).sent = w.sent ++ [x]) ∨
      ((w.onReadPacket crypto p name buf).sent = w.sent ∧
        ∀ x target packet, x.source = p →
          ¬ Forwards ssl crypto w name buf x source target packet) := by
  have hread := fun kind packet =>
    onReadPacket_eq_some crypto w.cryptoCalls ((h.pc p source hheap).sound name) kind buf packet
  unfold MediaWorker.onReadPacket
  rw [hheap]
  dsimp only
  split
  · -- SRTP does not let the packet in
    rename_i hnone
    refine .inr ⟨rfl, fun x target packet hp hx => ?_⟩
    have hin := (hread x.kind packet).mpr ⟨hx.receives.packetType, hp ▸ hx.receives.keys⟩
    rw [hnone] at hin
    cases hin
  rename_i kind packet hin
  have hkeys := (hread kind packet).mp hin
  -- any other way to forward the packet has this kind and this content
  have hsame : ∀ {x target packet'}, x.source = p →
      Forwards ssl crypto w name buf x source target packet' → x.kind = kind ∧ packet' = packet := by
    intro x target packet' hp hx
    have hin' := (hread x.kind packet').mpr ⟨hx.receives.packetType, hp ▸ hx.receives.keys⟩
    rw [hin] at hin'
    cases hin'
    exact ⟨rfl, rfl⟩
  split
  · -- no stream to send it to
    rename_i hdest
    refine .inr ⟨rfl, fun x target packet' hp hx => ?_⟩
    have hto := (destination_eq_some h.entries).mpr
      ⟨target, hx.toTarget, hx.mayPass, hx.streamName, hx.found⟩
    rw [(hsame hp hx).1, hdest] at hto
    cases hto
  rename_i q hdest
  obtain ⟨target, htarget, hpass, hname, hfound⟩ := (destination_eq_some h.entries).mp hdest
  have hsend := fun data => peerConnection_send_eq_some crypto (w.cryptoCalls + 1)
    ((h.pc q target htarget).sound (ascii "audio")) kind packet data
  unfold MediaWorker.send
  dsimp only
  rw [htarget]
  dsimp only
  split
  · -- the target does not take it
    rename_i hnone
    refine .inr ⟨rfl, fun x target' packet' hp hx => ?_⟩
    obtain ⟨rfl, rfl⟩ := hsame hp hx
    have hto := (destination_eq_some h.entries).mpr
      ⟨target', hx.toTarget, hx.mayPass, hx.streamName, hx.found⟩
    rw [hdest] at hto
    cases hto
    have htarget' := hx.toTarget
    rw [htarget] at htarget'
    cases htarget'
    have hout := (hsend x.data).mpr ⟨hx.sends.transport, hx.sends.keys⟩
    rw [hnone] at hout
    cases hout
  · rename_i data hout
    obtain ⟨haudio, hprotected⟩ := (hsend data).mp hout
    exact .inl ⟨⟨p, q, kind, data⟩, target, packet, rfl,
      ⟨hheap, htarget, hpass, hname, hfound, ⟨harrives.1, harrives.2, hkeys.1, hkeys.2⟩,
        ⟨haudio, hprotected⟩⟩, rfl⟩

/-- The record of the source plays no part in where its packet goes. -/
theorem forwards_withPc {p : Nat} {source : RtcStream PeerConnection}
    (hheap : w.manager.heap p = some source) {pc : PeerConnection}
    (hnames : pc.transportController.names = source.pc.transportController.names)
    (htransports : pc.transportController.transports = source.pc.transportController.transports)
    {name buf packet : Bytes} {x : ForwardedPacket} {target : RtcStream PeerConnection}
    (hp : x.source = p) :
    Forwards ssl crypto { w with manager := withPc w.manager p source pc } name buf x
        { source with pc } target packet ↔
      Forwards ssl crypto w name buf x source target packet := by
  subst hp
  have hreceives : Receives (ssl x.source) crypto w.cryptoCalls pc.transportController name buf
      x.kind packet ↔ Receives (ssl x.source) crypto w.cryptoCalls
        source.pc.transportController name buf x.kind packet := by
    constructor <;> rintro ⟨hname, hup, htype, hkeys⟩
    · exact ⟨hnames ▸ hname, htransports ▸ hup, htype, htransports ▸ hkeys⟩
    · exact ⟨hnames ▸ hname, htransports ▸ hup, htype, htransports ▸ hkeys⟩
  -- a packet does not go back to where it came from
  have hne : ∀ {t : RtcStreamType}, MayPass x.kind source.streamType t → source.streamType ≠ t := by
    intro t hpass heq
    subst heq
    cases htype : source.streamType <;> rw [htype] at hpass <;> cases hpass
  constructor
  · rintro ⟨hsource, htarget, hpass, hname, hfound, hin, hout⟩
    rw [withPc_streams] at hfound
    dsimp only at htarget
    rw [withPc_heap] at htarget
    by_cases hq : x.target = x.source
    · rw [hq, Function.update_self] at htarget
      cases htarget
      exact absurd rfl (hne hpass)
    · rw [Function.update_of_ne hq] at htarget
      exact ⟨hheap, htarget, hpass, hname, hfound, hreceives.mp hin, hout⟩
  · rintro ⟨hsource, htarget, hpass, hname, hfound, hin, hout⟩
    have hq : x.target ≠ x.source := by
      intro hq
      rw [hq, hheap] at htarget
      cases htarget
      exact hne hpass rfl
    refine ⟨?_, ?_, hpass, hname, ?_, hreceives.mpr hin, hout⟩
    · exact Function.update_self ..
    · dsimp only
      rw [withPc_heap, Function.update_of_ne hq, htarget]
    · rw [withPc_streams, hfound]

/-! ### Events -/

/-- Only a packet for SRTP goes on. -/
theorem Forwards.arrives {name buf packet : Bytes} {x : ForwardedPacket}
    {source target : RtcStream PeerConnection} (ts : Int)
    (h : Forwards ssl crypto w name buf x source target packet) :
    Arrives source.pc.transportController name (.readPacket buf ts) :=
  ⟨h.receives.transport, h.receives.handsUp⟩

/-- A packet for SRTP is sent on at most once, and if it is not, the reason is one of those that
`Silent` lists. -/
theorem sent_transportEvent_arrives (h : WorkerInv ssl w) {p : Nat}
    {source : RtcStream PeerConnection} (hheap : w.manager.heap p = some source)
    {name buf : Bytes} {ts : Int}
    (harrives : Arrives source.pc.transportController name (.readPacket buf ts)) :
    (∃ x target packet, x.source = p ∧ Forwards ssl crypto w name buf x source target packet ∧
        (w.transportEvent crypto ssl p name (.readPacket buf ts)).sent = w.sent ++ [x]) ∨
      ((w.transportEvent crypto ssl p name (.readPacket buf ts)).sent = w.sent ∧
        ∀ x target packet, x.source = p →
          ¬ Forwards ssl crypto w name buf x source target packet) := by
  rw [transportEvent_arrives crypto hheap harrives]
  -- the worker with the packet in the record of the source
  generalize hpc : ({ source.pc with transportController :=
    (MediaWorker.clearLog source.pc).transportController.push (.readPacket name buf ts) } :
      PeerConnection) = pc
  have hnames : pc.transportController.names = source.pc.transportController.names := by
    rw [← hpc]
    rfl
  have htransports : pc.transportController.transports
      = source.pc.transportController.transports := by
    rw [← hpc]
    rfl
  have hinv : WorkerInv ssl { w with manager := withPc w.manager p source pc } := by
    have hold := h.pc p source hheap
    apply h.withPc hheap
    constructor
    · intro name'
      rw [htransports]
      exact hold.sound name'
    · rw [hnames]
      exact hold.audio
  have hself : (withPc w.manager p source pc).heap p = some { source with pc } :=
    Function.update_self ..
  have harrives' : Arrives pc.transportController name (.readPacket buf ts) :=
    ⟨hnames ▸ harrives.1, htransports ▸ harrives.2⟩
  have hiff : ∀ x target packet, x.source = p →
      (Forwards ssl crypto { w with manager := withPc w.manager p source pc } name buf x
          { source with pc } target packet ↔
        Forwards ssl crypto w name buf x source target packet) := fun x target packet hp =>
    forwards_withPc hheap hnames htransports hp
  rcases @sent_onReadPacket ssl crypto _ hinv p _ hself name buf ts harrives' with
    ⟨x, target, packet, hp, hx, hsent⟩ | ⟨hsent, hnone⟩
  · exact .inl ⟨x, target, packet, hp, (hiff x target packet hp).mp hx, hsent⟩
  · exact .inr ⟨hsent, fun x target packet hp hx =>
      hnone x target packet hp ((hiff x target packet hp).mpr hx)⟩

/-- An event sends the packet that goes on, and nothing if there is none. -/
theorem sent_step (h : Settled ssl w) {e : MediaWorker.Event} {w' : MediaWorker}
    (hstep : w.step crypto ssl ntop6 e = some w') :
    (∃ x, GoesOn ssl crypto w e x ∧ w'.sent = w.sent ++ [x]) ∨
      (w'.sent = w.sent ∧ ∀ x, ¬ GoesOn ssl crypto w e x) := by
  have hcreated : ∀ result, (w.created result).sent = w.sent := by
    intro result
    unfold MediaWorker.created
    split <;> rfl
  -- an event that is not at a transport
  have hother : w'.sent = w.sent → (∀ p name e', e ≠ .transport p name e') →
      w'.sent = w.sent ∧ ∀ x, ¬ GoesOn ssl crypto w e x := by
    intro hsent hne
    refine ⟨hsent, fun x hx => ?_⟩
    obtain ⟨name, buf, ts, -, -, -, heq, -⟩ := hx
    exact hne _ _ _ heq
  cases e with
  | push | pull =>
      cases hstep
      exact .inr (hother (hcreated _) fun _ _ _ => nofun)
  | answer => exact .inr (hother (h.setAnswer crypto hstep).2 fun _ _ _ => nofun)
  | stopPush | stopPull =>
      cases hstep
      exact .inr (hother rfl fun _ _ _ => nofun)
  | iceTimeout p =>
      cases hstep
      exact .inr (hother (h.iceTimeoutCb p).2 fun _ _ _ => nofun)
  | transport p name e =>
      cases hstep
      cases hheap : w.manager.heap p with
      | none =>
          refine .inr ⟨?_, fun x hx => ?_⟩
          · unfold MediaWorker.transportEvent
            rw [hheap]
          · obtain ⟨name', buf, ts, source, target, packet, heq, hx⟩ := hx
            cases heq
            rw [hx.fromSource] at hheap
            cases hheap
      | some source =>
          by_cases harrives : Arrives source.pc.transportController name e
          · cases e with
            | iceChannel | dtlsEvent | setRemoteFingerprint => cases harrives
            | readPacket buf ts =>
                rcases @sent_transportEvent_arrives ssl crypto _ h.inv p _ hheap name buf ts
                    harrives with
                  ⟨x, target, packet, rfl, hx, hsent⟩ | ⟨hsent, hnone⟩
                · exact .inl ⟨x, ⟨name, buf, ts, source, target, packet, rfl, hx⟩, hsent⟩
                · refine .inr ⟨hsent, fun x hx => ?_⟩
                  obtain ⟨name', buf', ts', source', target, packet, heq, hx⟩ := hx
                  cases heq
                  have hsource := hx.fromSource
                  rw [hheap] at hsource
                  cases hsource
                  exact hnone x target packet rfl hx
          · refine .inr ⟨(h.transportEvent crypto hheap harrives).2, fun x hx => ?_⟩
            obtain ⟨name', buf, ts, source', target, packet, heq, hx⟩ := hx
            cases heq
            have hsource := hx.fromSource
            rw [hheap] at hsource
            cases hsource
            exact harrives (hx.arrives ts)

/-! ### A push stream and a pull stream -/

/-- A tag of ten bytes behind each packet, and the index behind a packet of RTCP. -/
def tagCrypto : SrtpCrypto where
  authTagLen _ _ := 10
  protect _ kind _ packet := some (packet ++ List.replicate (10 + kind.indexLen) 0)
  unprotect _ kind _ data :=
    if data.length < 10 + kind.indexLen then none
    else some (data.take (data.length - (10 + kind.indexLen)))

/-- A stream gets the fingerprint of its client, its channel connects and the handshake ends. -/
def connectEvents (p : Nat) : List MediaWorker.Event :=
  [.transport p (ascii "audio") (.setRemoteFingerprint (ascii "sha-256") [1]),
    .transport p (ascii "audio") (.iceChannel true true .connected),
    .transport p (ascii "audio") (.dtlsEvent ⟨true, none, none⟩)]

/-- An RTP packet without a payload, with its tag. -/
def taggedPacket : Bytes := [128, 96, 0, 1, 0, 0, 0, 0, 0, 0, 0, 7] ++ List.replicate 10 0

/-- A push stream and a pull stream of one name connect. Then a packet of each comes in. -/
def passEvents : List MediaWorker.Event :=
  let certificate := some ⟨0, some ⟨ascii "sha-256", [1]⟩⟩
  let draw := ⟨⟨ascii "ufrg", ascii "password"⟩, fun _ => []⟩
  [.push 1 "s" true true 0 certificate draw] ++ connectEvents 0 ++
    [.pull 2 "s" true true 0 certificate draw] ++ connectEvents 1 ++
    [.transport 0 (ascii "audio") (.readPacket taggedPacket 0),
      .transport 1 (ascii "audio") (.readPacket taggedPacket 0)]

/-- The run of these events. -/
def passRun (es : List MediaWorker.Event) : Option MediaWorker :=
  runPartial (MediaWorker.step tagCrypto (fun _ => quietAdapter) fun _ => []) {} es

/-- The run of the example, up to its end: one packet has come in on the first stream and gone out
on the second. -/
theorem passRun_passEvents : ∃ w, passRun passEvents = some w ∧
    w.sent = [⟨0, 1, .rtp, taggedPacket⟩] ∧ w.state 0 = .connected ∧
      (w.manager.heap 0).isSome = true ∧ w.manager.streams .push "s" = some 0 := by
  have hrun : (passRun passEvents).map
      (fun w => (w.sent, w.state 0, (w.manager.heap 0).isSome, w.manager.streams .push "s"))
        = some ([⟨0, 1, .rtp, taggedPacket⟩], .connected, true, some 0) := by decide +kernel
  obtain ⟨w, hw, heq⟩ := Option.map_eq_some_iff.mp hrun
  simp only [Prod.mk.injEq] at heq
  exact ⟨w, hw, heq⟩

/-! ### Runs -/

/-- From a settled worker on, every run has its flow of packets, which is what it adds to those
sent. The induction is on the events. -/
theorem flow_of_settled {es : List MediaWorker.Event} {w' : MediaWorker} (h : Settled ssl w)
    (hrun : runPartial (MediaWorker.step crypto ssl ntop6) w es = some w') :
    ∃ xs, Flow ssl crypto ntop6 w es xs ∧ w'.sent = w.sent ++ xs := by
  induction es generalizing w with
  | nil =>
      cases hrun
      exact ⟨[], .done _, (List.append_nil _).symm⟩
  | cons e es ih =>
      obtain ⟨w₁, hstep, hrest⟩ := Option.bind_eq_some_iff.mp hrun
      obtain ⟨xs, hflow, hsent⟩ := ih (settled_step ntop6 crypto hstep h) hrest
      rcases sent_step h hstep with ⟨x, hx, hone⟩ | ⟨hnone, hx⟩
      · exact ⟨x :: xs, .forwarded hx hstep hflow, by rw [hsent, hone, List.append_assoc]; rfl⟩
      · exact ⟨xs, .silent hx hstep hflow, by rw [hsent, hnone]⟩

/-- After every run, a worker has sent the packets that went on, each one once and in their order:
`Flow` is the rule for a single event, put together along the run. -/
theorem flow_of_run {es : List MediaWorker.Event}
    (hrun : runPartial (MediaWorker.step crypto ssl ntop6) {} es = some w) :
    Flow ssl crypto ntop6 {} es w.sent := by
  obtain ⟨xs, hflow, hsent⟩ := flow_of_settled settled_empty hrun
  rw [hsent]
  exact hflow

/-- The packet of the push stream goes on, and that of the pull stream does not. -/
theorem flow_of_passEvents : ∃ w : MediaWorker, w.sent = [⟨0, 1, .rtp, taggedPacket⟩] ∧
    Flow (fun _ => quietAdapter) tagCrypto (fun _ => []) {} passEvents w.sent := by
  obtain ⟨w, hrun, hsent, -⟩ := passRun_passEvents
  exact ⟨w, hsent, flow_of_run hrun⟩

/-! ### The streams there are -/

/-- What a worker makes of its streams. New streams get new numbers. A stream that is still
there differs in its peer connection only, and a timer that is running has been running. -/
structure Grown (w w' : MediaWorker) : Prop where
  next : w.manager.next ≤ w'.manager.next
  stream : ∀ p < w.manager.next, ∀ s', w'.manager.heap p = some s' →
    ∃ s, w.manager.heap p = some s ∧ s' = { s with pc := s'.pc }
  timer : ∀ p < w.manager.next, w'.iceTimeout p = true → w.iceTimeout p = true

/-- Where nothing happens, nothing is lost. -/
theorem Grown.refl (w : MediaWorker) : Grown w w :=
  ⟨Nat.le_refl _, fun _ _ s' h => ⟨s', h, rfl⟩, fun _ _ h => h⟩

/-- What two steps keep is kept by both together. -/
theorem Grown.trans {w₁ w₂ w₃ : MediaWorker} (h : Grown w₁ w₂) (h' : Grown w₂ w₃) :
    Grown w₁ w₃ where
  next := Nat.le_trans h.next h'.next
  stream p hp s₃ hs₃ := by
    obtain ⟨s₂, hs₂, heq₂⟩ := h'.stream p (Nat.lt_of_lt_of_le hp h.next) s₃ hs₃
    obtain ⟨s₁, hs₁, heq₁⟩ := h.stream p hp s₂ hs₂
    exact ⟨s₁, hs₁, by rw [heq₂, heq₁]⟩
  timer p hp ht := h.timer p hp (h'.timer p (Nat.lt_of_lt_of_le hp h.next) ht)

/-- A stream that is deleted does not come back: its number is not given out again. -/
theorem grown_withoutStream (w : MediaWorker) (t : RtcStreamType) (name : String) (p : Nat) :
    Grown w { w with manager := withoutStream w.manager t name p } where
  next := by rw [withoutStream_next]
  stream _ _ s' hs' := ⟨s', (heap_of_withoutStream hs').2, rfl⟩
  timer _ _ ht := ht

/-- So a call that removes a stream only makes streams fewer. -/
theorem grown_removeStream (w : MediaWorker) (t : RtcStreamType) (uid : UInt64) (name : String) :
    Grown w { w with manager := w.manager.removeStream t uid name } := by
  rcases removeStream_cases w.manager t uid name with heq | ⟨p, -, heq⟩
  · rw [heq]
    exact .refl w
  · rw [heq]
    exact grown_withoutStream w t name p

/-- A new stream has a number that no stream has had. -/
theorem grown_withStream (w : MediaWorker) (stream : RtcStream PeerConnection)
    (state : Nat → PeerConnectionState) :
    Grown w { w with
      manager := withStream w.manager stream
      state
      iceTimeout := Function.update w.iceTimeout w.manager.next true } where
  next := by
    rw [withStream_next]
    exact Nat.le_succ _
  stream p hp s' hs' := by
    rw [withStream_heap, Function.update_of_ne (Nat.ne_of_lt hp)] at hs'
    exact ⟨s', hs', rfl⟩
  timer p hp ht := by
    dsimp only at ht
    rwa [Function.update_of_ne (Nat.ne_of_lt hp)] at ht

/-- Another peer connection for a stream is the same stream. -/
theorem grown_withPc (w : MediaWorker) {p : Nat} {stream : RtcStream PeerConnection}
    (hheap : w.manager.heap p = some stream) (pc : PeerConnection) :
    Grown w { w with manager := withPc w.manager p stream pc } where
  next := Nat.le_refl _
  stream q _ s' hs' := by
    dsimp only at hs'
    rw [withPc_heap] at hs'
    by_cases hq : q = p
    · subst hq
      rw [Function.update_self] at hs'
      cases hs'
      exact ⟨stream, hheap, rfl⟩
    · rw [Function.update_of_ne hq] at hs'
      exact ⟨s', hs', rfl⟩
  timer _ _ ht := ht

/-- A state of the connection stops the timer of its stream or removes it. -/
theorem grown_onConnectionState (w : MediaWorker) (p : Nat) (state : PeerConnectionState) :
    Grown w (w.onConnectionState p state) := by
  unfold MediaWorker.onConnectionState
  split
  · exact .refl w
  rename_i stream hheap
  split
  · exact .refl w
  have hmanager : Grown w { w with manager := w.manager.onConnectionState p state } := by
    rw [onConnectionState_eq _ hheap]
    split
    · exact grown_removeStream w _ _ _
    · exact .refl w
  refine ⟨hmanager.next, hmanager.stream, fun q _ ht => ?_⟩
  dsimp only at ht
  split at ht
  · by_cases hq : q = p
    · rw [hq, Function.update_self] at ht
      cases ht
    · rwa [Function.update_of_ne hq] at ht
  · exact ht

/-- A packet changes no stream. -/
theorem grown_onReadPacket (w : MediaWorker) (p : Nat) (name data : Bytes) :
    Grown w (w.onReadPacket crypto p name data) := by
  obtain ⟨cryptoCalls, sent, heq⟩ := onReadPacket_eq crypto w p name data
  rw [heq]
  exact ⟨Nat.le_refl _, fun _ _ s' h => ⟨s', h, rfl⟩, fun _ _ h => h⟩

/-- Signals, one after the other, remove streams at most. -/
theorem grown_deliver (p : Nat) (entries : List Entry) (w : MediaWorker) :
    Grown w (entries.foldl (MediaWorker.deliver crypto p) w) := by
  induction entries generalizing w with
  | nil => exact .refl w
  | cons e entries ih =>
      refine Grown.trans ?_ (ih _)
      cases e with
      | connectionState state => exact grown_onConnectionState w p state
      | readPacket name data => exact grown_onReadPacket w p name data
      | startSSL | handlePacket | receivedPacket | closed => exact .refl w

/-- The same for the signals of a connection that has changed. -/
theorem grown_signal {p : Nat} {stream : RtcStream PeerConnection}
    (hheap : w.manager.heap p = some stream) (pc : PeerConnection) :
    Grown w (w.signal crypto p stream pc) :=
  (grown_withPc w hheap pc).trans (grown_deliver p _ _)

/-- The stream that a message creates, with its offer. -/
theorem grown_offered (w : MediaWorker) (draw : OfferDraw) (certificate : Option LocalCertificate)
    (stream : RtcStream PeerConnection) :
    Grown w { w with
      manager := withStream w.manager { stream with
        pc := ((peerConnectionOps ntop6 draw).createOffer
          ((peerConnectionOps ntop6 draw).init stream.pc certificate) stream.offerOptions).1 }
      state := Function.update w.state w.manager.next .new
      iceTimeout := Function.update w.iceTimeout w.manager.next true } :=
  grown_withStream w _ _

/-- A push request creates one stream, and may delete the one of the name before. -/
theorem grown_push (uid : UInt64) (name : String) (audio video : Bool) (logId : UInt32)
    (certificate : Option LocalCertificate) (draw : OfferDraw) :
    Grown w (w.created (w.manager.createPushStream (peerConnectionOps ntop6 draw) uid name audio
      video logId certificate)) := by
  unfold RtcStreamManager.createPushStream RtcStreamManager.findPushStream
  cases hp : w.manager.pushStreams name with
  | none => exact grown_offered w draw certificate ⟨.push, uid, name, audio, video, logId, {}⟩
  | some p =>
      have hremoved := grown_withoutStream w .push name p
      exact hremoved.trans (grown_offered _ draw certificate
        ⟨.push, uid, name, audio, video, logId, {}⟩)

/-- A pull request creates one stream, and may delete the one of the uid before. -/
theorem grown_pull (uid : UInt64) (name : String) (audio video : Bool) (logId : UInt32)
    (certificate : Option LocalCertificate) (draw : OfferDraw) :
    Grown w (w.created (w.manager.createPullStream (peerConnectionOps ntop6 draw) uid name audio
      video logId certificate)) := by
  unfold RtcStreamManager.createPullStream RtcStreamManager.findPushStream
  cases hp : w.manager.pushStreams name with
  | none => exact .refl w
  | some push =>
      have hnext : (w.manager.removePullStream uid name).next = w.manager.next := by
        unfold RtcStreamManager.removePullStream
        rcases removeStream_cases w.manager .pull uid name with heq | ⟨p, -, heq⟩
        · rw [heq]
        · rw [heq, withoutStream_next]
      have hadded := fun pc => (grown_removeStream w .pull uid name).trans
        (@grown_offered ntop6 { w with manager := w.manager.removeStream .pull uid name } draw
          certificate ⟨.pull, uid, name, audio, video, logId, pc⟩)
      dsimp only at hadded
      rw [show (w.manager.removeStream .pull uid name).next = w.manager.next from hnext] at hadded
      exact hadded _

/-- So it is for every event: streams come and go, pointers are not used again, and a timer that
is stopped stays so. -/
theorem grown_step {e : MediaWorker.Event} {w' : MediaWorker}
    (hstep : w.step crypto ssl ntop6 e = some w') : Grown w w' := by
  cases e with
  | push uid name audio video logId certificate draw =>
      cases hstep
      exact grown_push uid name audio video logId certificate draw
  | pull uid name audio video logId certificate draw =>
      cases hstep
      exact grown_pull uid name audio video logId certificate draw
  | answer uid name sdp streamType =>
      rcases setAnswer_cases crypto hstep with
        rfl | ⟨t, p, stream, ret, pc, -, -, hheap, -, -, rfl⟩
      · exact .refl _
      · exact grown_signal hheap _
  | stopPush uid name =>
      cases hstep
      exact grown_removeStream w .push uid name
  | stopPull uid name =>
      cases hstep
      exact grown_removeStream w .pull uid name
  | transport p name e =>
      cases hstep
      unfold MediaWorker.transportEvent
      split
      · exact .refl w
      · rename_i stream hheap
        exact grown_signal hheap _
  | iceTimeout p =>
      cases hstep
      unfold MediaWorker.iceTimeoutCb
      split
      · exact .refl w
      rename_i stream hheap
      split
      · exact .refl w
      -- the timer of the stream is stopped, and the stream may go
      have hstopped : Grown w { w with iceTimeout := Function.update w.iceTimeout p false } := by
        refine ⟨Nat.le_refl _, fun _ _ s' h => ⟨s', h, rfl⟩, fun q _ ht => ?_⟩
        dsimp only at ht
        by_cases hq : q = p
        · rw [hq, Function.update_self] at ht
          cases ht
        · rwa [Function.update_of_ne hq] at ht
      dsimp only
      split
      · rw [onStreamException_eq _ hheap]
        exact hstopped.trans (grown_removeStream _ _ _ _)
      · exact hstopped

/-- And for every run. -/
theorem grown_of_run {es : List MediaWorker.Event} {w' : MediaWorker}
    (hrun : runPartial (MediaWorker.step crypto ssl ntop6) w es = some w') : Grown w w' :=
  invariant_of_runPartial (fun _ _ _ hstep h => Grown.trans h (grown_step hstep)) (.refl w) hrun

/-! ### Whole runs -/

/-- A stream that is there has a number that has been given out. -/
theorem Entries.lt_next {m : RtcStreamManager PeerConnection} (h : Entries m) {p : Nat}
    {stream : RtcStream PeerConnection} (hheap : m.heap p = some stream) : p < m.next := by
  by_contra hle
  rw [h.fresh p (Nat.not_lt.mp hle)] at hheap
  cases hheap

/-- A stream that can be found is there under its type and name, it has heard the state of its
controller, and that state is not `failed`. Streams that fail are removed while the signal is
handled, before anything can find them. -/
theorem found_of_run {es : List MediaWorker.Event}
    (hrun : runPartial (MediaWorker.step crypto ssl ntop6) {} es = some w) {t : RtcStreamType}
    {name : String} {p : Nat} (hfound : w.manager.streams t name = some p) :
    ∃ stream, w.manager.heap p = some stream ∧ stream.streamType = t ∧
      stream.streamName = name ∧ w.state p = stream.pc.transportController.pcState ∧
      w.state p ≠ .failed := by
  have h : Settled ssl w := settled_of_run ntop6 crypto hrun
  obtain ⟨stream, hheap, htype, hname⟩ := h.inv.entries.entry t name p hfound
  exact ⟨stream, hheap, htype, hname, h.linked p stream hheap, h.inv.healthy t name p hfound⟩

/-- In the run of the example the push stream can be found, and has the state of its controller.
-/
theorem found_of_passEvents : ∃ (w : MediaWorker) (stream : RtcStream PeerConnection),
    w.manager.heap 0 = some stream ∧
    stream.streamType = .push ∧ stream.streamName = "s" ∧
      w.state 0 = stream.pc.transportController.pcState ∧ w.state 0 ≠ .failed := by
  obtain ⟨w, hrun, -, -, -, hfound⟩ := passRun_passEvents
  exact ⟨w, found_of_run hrun hfound⟩

/-- The timer of a stream that has once been connected never removes it again: it is stopped then
and started by nothing else. What comes in between may be any events, among them a failure of the
connection. -/
theorem iceTimeout_of_connected {es fs : List MediaWorker.Event} {w' : MediaWorker}
    (hrun : runPartial (MediaWorker.step crypto ssl ntop6) {} es = some w) {p : Nat}
    {stream : RtcStream PeerConnection} (hheap : w.manager.heap p = some stream)
    (hconnected : w.state p = .connected)
    (hlater : runPartial (MediaWorker.step crypto ssl ntop6) w fs = some w') :
    w'.step crypto ssl ntop6 (.iceTimeout p) = some w' := by
  have h : Settled ssl w := settled_of_run ntop6 crypto hrun
  have hold : p < w.manager.next := h.inv.entries.lt_next hheap
  have hoff : w'.iceTimeout p = false := by
    by_contra hon
    have hbefore := (grown_of_run hlater).timer p hold (by simpa using hon)
    rw [h.inv.watched p hconnected] at hbefore
    cases hbefore
  show some (w'.iceTimeoutCb p) = some w'
  unfold MediaWorker.iceTimeoutCb
  split
  · rfl
  · rw [hoff]
    rfl

/-- The timer of the push stream runs out after its connection is lost. -/
theorem iceTimeout_of_passEvents : ∃ w w' : MediaWorker, passRun passEvents = some w ∧
    w.step tagCrypto (fun _ => quietAdapter) (fun _ => [])
      (.transport 0 (ascii "audio") (.iceChannel false true .disconnected)) = some w' ∧
    w'.step tagCrypto (fun _ => quietAdapter) (fun _ => []) (.iceTimeout 0) = some w' := by
  obtain ⟨w, hrun, -, hconnected, hheap, -⟩ := passRun_passEvents
  obtain ⟨stream, hstream⟩ := Option.isSome_iff_exists.mp hheap
  exact ⟨w, _, hrun, rfl, iceTimeout_of_connected hrun hstream hconnected
    (show runPartial _ w [.transport 0 (ascii "audio") (.iceChannel false true .disconnected)]
      = some _ from rfl)⟩

end Xrtc.Proofs.Stream
