import Xrtc.Lib.Run
import Xrtc.Proofs.Server.SignalingWorker
import Xrtc.Server.Connections

/-!
# `Xrtc.Proofs.Server.OfferReplies`: whom an offer is sent to

A message that comes back with an offer is matched to its connection by the
descriptor and the address of the object, and both are given out again once the
connection is closed. When a new connection gets both of them while the message is
under way, `_response_server_offer` takes it for the old one.

`always_repliesSound` says that nothing else goes wrong: in every run in which no
accepted connection gets the descriptor and the address that a pending message
holds, every offer is queued on the connection that asked for it, with the log id of
its request. The invariant is `WorkerInv`. Its heart is `owners`: whatever object
now has the address and the descriptor of a pending message is the one that sent
it, and its buffer still starts with the header of the request. Each kind of change
has its lemma (`update`, `close`, `send`, `accept`), and `workerInv_step` takes
them together.
-/

set_option autoImplicit false

namespace Xrtc.Proofs.Server

open Xrtc.Lib
open Xrtc.Server
open Xrtc.Server.SignalingWorker

/-- The reply is on the object that sent the message, and starts with a header that
has the log id of the request. -/
structure OfferReplySound (r : OfferReply) : Prop where
  serial : r.serial = r.msg.serial
  logId : (XHead.ofBytes r.header).logId = r.msg.logId

/-- Every offer has been queued on the connection that asked for it. -/
def RepliesSound (w : SignalingWorker) : Prop := ∀ r ∈ w.replies, OfferReplySound r

/-- No accepted connection gets both the descriptor and the address that a message
under way holds. -/
def KeepsInstances (w : SignalingWorker) : Event → Prop
  | .newConn fd addr _ => ∀ msg ∈ w.pending, ¬ (msg.conn = addr ∧ msg.fd = fd)
  | _ => True

/-! ### The buffer of a connection -/

/-- A connection in `STATE_BODY` has its header, and one in `STATE_HEAD` waits for
all of it. -/
structure ParserInv (c : TcpConnection) : Prop where
  head : c.currentState = .head → xheadSize ≤ c.bytesProcessed + c.bytesExpected
  body : c.currentState = .body → xheadSize ≤ c.querybuf.length

/-- A new connection has read nothing. -/
theorem parserInv_init (now : Nat) : ParserInv { lastInteraction := now } :=
  ⟨fun _ => Nat.le_refl _, fun h => nomatch h⟩

/-- The requests that `_process_query_buffer` adds all start with the header in the
buffer, which it leaves alone. Induction on the iterations of its loop. -/
theorem processQueryBuffer_requests (processRequest : Nat → Request → Int) :
    ∀ (fuel : Nat) (c : TcpConnection) (r : Int × TcpConnection), ParserInv c →
      c.processQueryBuffer processRequest fuel = some r →
      ParserInv r.2 ∧ r.2.querybuf = c.querybuf ∧ r.2.closed = c.closed ∧
        ∃ new, r.2.requests = c.requests ++ new ∧
          ∀ q ∈ new, q.header = c.querybuf.take xheadSize ∧ xheadSize ≤ c.querybuf.length := by
  intro fuel
  induction fuel with
  | zero => intro c r _ h; simp [TcpConnection.processQueryBuffer] at h
  | succ fuel ih =>
      intro c r hinv h
      rw [TcpConnection.processQueryBuffer] at h
      split at h
      · rename_i hlen
        split at h
        · rename_i hstate
          have hhead : xheadSize ≤ c.querybuf.length := Nat.le_trans (hinv.head hstate) hlen
          split at h
          · cases h
            exact ⟨hinv, rfl, rfl, [], by simp, by simp⟩
          · -- the head is complete, and the body is expected next
            exact ih { c with
                currentState := .body
                bytesProcessed := xheadSize
                bytesExpected := bodyLen c.querybuf } r
              ⟨fun hs => absurd hs (by simp), fun _ => hhead⟩ h
        · rename_i hstate
          have hhead := hinv.body hstate
          -- the body is complete: this is a request
          have hnew : ∀ q ∈ [request c.querybuf],
              q.header = c.querybuf.take xheadSize ∧ xheadSize ≤ c.querybuf.length := by
            intro q hq
            rw [List.mem_singleton.mp hq]
            exact ⟨rfl, hhead⟩
          dsimp only at h
          split at h
          · cases h
            exact ⟨⟨fun hs => absurd (hstate.symm.trans hs) (by simp), fun _ => hhead⟩, rfl, rfl, _,
              rfl, hnew⟩
          · have hrest := ih { c with
                requests := c.requests ++ [request c.querybuf]
                bytesProcessed := 65535 } r
              ⟨fun hs => absurd (hstate.symm.trans hs) (by simp), fun _ => hhead⟩ h
            obtain ⟨hinv', hbuf, hopen, new, hreq, hall⟩ := hrest
            refine ⟨hinv', hbuf, hopen, request c.querybuf :: new, ?_, ?_⟩
            · rw [hreq, List.append_assoc]
              rfl
            · intro q hq
              rcases List.mem_cons.mp hq with rfl | hq
              · exact hnew _ (List.mem_singleton.mpr rfl)
              · exact hall q hq
      · cases h
        exact ⟨hinv, rfl, rfl, [], by simp, by simp⟩

/-- What one `_read_query` does to a connection: the buffer grows, and the requests it
dispatches start with its header. -/
theorem readQuery_requests (processRequest : Nat → Request → Int) {fuel now : Nat}
    {c c' : TcpConnection} {nread : ReadResult} (hinv : ParserInv c)
    (h : c.readQuery processRequest fuel now nread = some c') :
    ParserInv c' ∧ (∃ more, c'.querybuf = c.querybuf ++ more) ∧
      ∃ new, c'.requests = c.requests ++ new ∧
        ∀ q ∈ new, q.header = c'.querybuf.take xheadSize ∧ xheadSize ≤ c'.querybuf.length := by
  cases nread with
  | failed =>
      simp only [TcpConnection.readQuery, Option.some.injEq] at h
      subst h
      exact ⟨⟨hinv.head, hinv.body⟩, ⟨[], by simp⟩, [], by simp, by simp⟩
  | data bytes =>
      simp only [TcpConnection.readQuery, Option.map_eq_some_iff] at h
      obtain ⟨r, hr, hc'⟩ := h
      have hinv₀ : ParserInv { c with querybuf := c.querybuf ++ bytes, lastInteraction := now } :=
        ⟨hinv.head, fun hs => by
          have := hinv.body hs
          simp only [List.length_append]
          omega⟩
      obtain ⟨hinv', hbuf, -, new, hreq, hall⟩ :=
        processQueryBuffer_requests processRequest fuel _ r hinv₀ hr
      -- an error closes the connection, and changes nothing else
      have hsame : c'.querybuf = r.2.querybuf ∧ c'.requests = r.2.requests ∧ ParserInv c' := by
        rw [← hc']
        split
        · exact ⟨rfl, rfl, hinv'.head, hinv'.body⟩
        · exact ⟨rfl, rfl, hinv'⟩
      obtain ⟨hbuf', hreq', hinv''⟩ := hsame
      rw [hbuf', hreq', hbuf]
      exact ⟨hinv'', ⟨bytes, rfl⟩, new, hreq, hall⟩

/-! ### The invariant -/

/-- The object is the one that sent the message, and it still has the header of the
request. -/
structure Answers (c : Connection) (msg : RtcMsg) : Prop where
  serial : c.serial = msg.serial
  header : xheadSize ≤ c.tcp.querybuf.length
  logId : (XHead.ofBytes (c.tcp.querybuf.take xheadSize)).logId = msg.logId

/-- The table points to live objects that know their place, the parsers are in order,
and no pending message can be answered on an object that has not sent it. -/
structure WorkerInv (w : SignalingWorker) : Prop where
  live : ∀ (i : Nat) (addr : Address), w.conns[i]? = some addr → addr ≠ nullptr →
    ∃ c, w.objects addr = some c ∧ c.fd = i
  parser : ∀ (addr : Address) (c : Connection), w.objects addr = some c → ParserInv c.tcp
  owners : ∀ msg ∈ w.pending, ∀ c, w.objects msg.conn = some c → c.fd = msg.fd → Answers c msg

/-- A worker without connections. -/
theorem workerInv_init : WorkerInv {} where
  live := by intro i addr h; simp at h
  parser := by intro addr c h; cases h
  owners := by intro msg hmsg; cases hmsg

/-- A live object changes and stays what it is: its descriptor is the same, its parser is in a
state it can be in, and it still answers what it answered. -/
theorem WorkerInv.update {w : SignalingWorker} (h : WorkerInv w) {addr : Address}
    {c : Connection} (hobj : w.objects addr = some c) (c' : Connection) (hfd : c'.fd = c.fd)
    (hparser : ParserInv c'.tcp) (hanswers : ∀ msg, Answers c msg → Answers c' msg) :
    WorkerInv (w.setObject addr (some c')) where
  live := by
    intro i a hentry hne
    obtain ⟨d, hd, hdfd⟩ := h.live i a hentry hne
    by_cases ha : a = addr
    · subst ha
      rw [hobj] at hd
      cases hd
      exact ⟨c', w.setObject_self a _, hfd.trans hdfd⟩
    · exact ⟨d, (w.setObject_of_ne ha _).trans hd, hdfd⟩
  parser := by
    intro a d hd
    by_cases ha : a = addr
    · subst ha
      rw [setObject_self] at hd
      cases hd
      exact hparser
    · exact h.parser a d ((w.setObject_of_ne ha _).symm.trans hd)
  owners := by
    intro msg hmsg d hd hdfd
    by_cases ha : msg.conn = addr
    · rw [ha, setObject_self] at hd
      cases hd
      exact hanswers msg (h.owners msg hmsg c (ha ▸ hobj) (hfd.symm.trans hdfd))
    · exact h.owners msg hmsg d ((w.setObject_of_ne ha _).symm.trans hd) hdfd

/-- A live object is closed and deleted. Its address may be taken by a new connection afterwards,
so nothing may point to it any more. -/
theorem WorkerInv.close {w : SignalingWorker} (h : WorkerInv w) {addr : Address}
    {c c' : Connection} (hobj : w.objects addr = some c) (hfd : c'.fd = c.fd) :
    WorkerInv (w.closeConn addr c') where
  live := by
    intro i a hentry hne
    have hentry' : (w.conns.set c'.fd.toNat nullptr)[i]? = some a := hentry
    by_cases hi : c'.fd.toNat = i
    · -- the entry of the closed connection
      rw [hi, List.getElem?_set_self'] at hentry'
      cases hold : w.conns[i]? with
      | none => simp [hold] at hentry'
      | some old =>
          simp only [hold, Option.map_eq_map, Option.map_some, Function.const_apply,
            Option.some.injEq] at hentry'
          exact absurd hentry'.symm hne
    · rw [List.getElem?_set_ne hi] at hentry'
      obtain ⟨d, hd, hdfd⟩ := h.live i a hentry' hne
      -- the object at another index has another descriptor, so it is not the closed one
      have ha : a ≠ addr := by
        intro ha
        subst ha
        rw [hobj] at hd
        cases hd
        omega
      exact ⟨d, (w.setObject_of_ne ha _).trans hd, hdfd⟩
  parser := by
    intro a d hd
    by_cases ha : a = addr
    · subst ha
      simp [closeConn] at hd
    · exact h.parser a d ((w.setObject_of_ne ha _).symm.trans hd)
  owners := by
    intro msg hmsg d hd hdfd
    by_cases ha : msg.conn = addr
    · simp [closeConn, ha] at hd
    · exact h.owners msg hmsg d ((w.setObject_of_ne ha _).symm.trans hd) hdfd

/-- Messages are sent that the objects at their addresses answer. -/
theorem WorkerInv.send {w : SignalingWorker} (h : WorkerInv w) (msgs : List RtcMsg)
    (hmsgs : ∀ msg ∈ msgs, ∀ c, w.objects msg.conn = some c → Answers c msg) :
    WorkerInv { w with pending := w.pending ++ msgs } where
  live := h.live
  parser := h.parser
  owners := by
    intro msg hmsg c hc hfd
    rcases List.mem_append.mp hmsg with hold | hnew
    · exact h.owners msg hold c hc hfd
    · exact hmsgs msg hnew c hc

/-- The table that has been resized has the old entries and null pointers. -/
theorem resized_getElem? {w : SignalingWorker} {fd : Int} {i : Nat} {addr : Address}
    (h : (w.resized fd)[i]? = some addr) (hne : addr ≠ nullptr) : w.conns[i]? = some addr := by
  rw [resized] at h
  split at h
  · by_cases hin : i < w.conns.length
    · rwa [List.getElem?_append_left hin] at h
    · rw [List.getElem?_append_right (by omega)] at h
      have hmem := List.mem_of_getElem? h
      exact absurd (List.eq_of_mem_replicate hmem) hne
  · exact h

/-- A connection is accepted, and the messages under way do not hold both its
descriptor and its address. -/
theorem WorkerInv.accept {w w' : SignalingWorker} (h : WorkerInv w) {fd : Int} {addr : Address}
    {now : Nat} (hkeeps : KeepsInstances w (.newConn fd addr now))
    (hw' : w.newConn fd addr now = some w') : WorkerInv w' ∧ w'.replies = w.replies := by
  rw [SignalingWorker.newConn] at hw'
  split at hw'
  · cases hw'
    exact ⟨h, rfl⟩
  · rename_i hfd
    split at hw'
    · cases hw'
    · rename_i hfree
      push Not at hfree
      obtain ⟨hne, hnone, -⟩ := hfree
      split at hw'
      · cases hw'
      · rename_i hlen
        cases hw'
        refine ⟨⟨?_, ?_, ?_⟩, rfl⟩
        · intro i a hentry hane
          dsimp only at hentry
          by_cases hi : fd.toNat = i
          · subst hi
            rw [List.getElem?_set_self (Nat.lt_of_not_le hlen), Option.some.injEq] at hentry
            subst hentry
            exact ⟨_, w.setObject_self addr _, (Int.toNat_of_nonneg (Int.not_lt.mp hfd)).symm⟩
          · rw [List.getElem?_set_ne hi] at hentry
            obtain ⟨d, hd, hdfd⟩ := h.live i a (resized_getElem? hentry hane) hane
            have ha : a ≠ addr := by
              intro ha
              subst ha
              rw [hnone] at hd
              cases hd
            exact ⟨d, (w.setObject_of_ne ha _).trans hd, hdfd⟩
        · intro a d hd
          by_cases ha : a = addr
          · subst ha
            simp only [setObject_self, Option.some.injEq] at hd
            subst hd
            exact parserInv_init now
          · exact h.parser a d ((w.setObject_of_ne ha _).symm.trans hd)
        · intro msg hmsg d hd hdfd
          -- a message for an older instance at this address is what `KeepsInstances` excludes
          by_cases ha : msg.conn = addr
          · simp only [ha, setObject_self, Option.some.injEq] at hd
            subst hd
            exact absurd ⟨ha, hdfd.symm⟩ (hkeeps msg hmsg)
          · exact h.owners msg hmsg d ((w.setObject_of_ne ha _).symm.trans hd) hdfd

/-! ### One event -/

section
variable (writeString : ReplyRoot → Bytes)

/-- An object whose buffer has grown answers the same messages. -/
theorem Answers.grow {c c' : Connection} {msg : RtcMsg} (h : Answers c msg)
    (hserial : c'.serial = c.serial)
    (hbuf : ∃ more, c'.tcp.querybuf = c.tcp.querybuf ++ more) : Answers c' msg := by
  obtain ⟨more, hbuf⟩ := hbuf
  refine ⟨hserial.trans h.serial, ?_, ?_⟩
  · rw [hbuf, List.length_append]
    exact Nat.le_trans h.header (Nat.le_add_right _ _)
  · rw [hbuf, List.take_append_of_le_length h.header]
    exact h.logId

/-- The messages that a read sends are answered by the object that has read. -/
theorem answers_of_mem_sentMsgs {addr : Address} {c : Connection} (c' : Connection)
    {outcome : Nat → Request → Outcome} {requests : List (Request × Nat)}
    (hserial : c'.serial = c.serial)
    (hrequests : ∀ r ∈ requests, r.1.header = c'.tcp.querybuf.take xheadSize ∧
      xheadSize ≤ c'.tcp.querybuf.length) {msg : RtcMsg}
    (hmsg : msg ∈ sentMsgs addr c outcome requests) : msg.conn = addr ∧ Answers c' msg := by
  obtain ⟨r, hr, rfl⟩ := List.mem_map.mp hmsg
  obtain ⟨hheader, hlen⟩ := hrequests r (List.mem_filter.mp hr).1
  refine ⟨rfl, hserial, hlen, ?_⟩
  show _ = (XHead.ofBytes r.1.header).logId
  rw [hheader]

/-- The requests that were added, with their numbers. -/
theorem mem_of_mem_drop_zipIdx {α : Type} {old new : List α} {r : α × Nat}
    (h : r ∈ (old ++ new).zipIdx.drop old.length) : r.1 ∈ new := by
  rw [List.zipIdx_append, List.drop_left' (by simp)] at h
  exact List.fst_mem_of_mem_zipIdx h

/-- `_read_query` keeps the invariant. The connection is stored, its messages are
sent, and then it may be closed. -/
theorem WorkerInv.readQuery {w w' : SignalingWorker} (h : WorkerInv w) {fd : Int} {now : Nat}
    {nread : ReadResult} {outcome : Nat → Request → Outcome} {fuel : Nat} {mem : Nat → Memory}
    (hw' : w.readQuery writeString fd now nread outcome fuel mem = some w') :
    WorkerInv w' ∧ w'.replies = w.replies := by
  rw [SignalingWorker.readQuery] at hw'
  split at hw'
  · cases hw'
    exact ⟨h, rfl⟩
  · dsimp only at hw'
    obtain ⟨c, hobj, hrest⟩ := Option.bind_eq_some_iff.mp hw'
    obtain ⟨tcp, hread, hclose⟩ := Option.map_eq_some_iff.mp hrest
    obtain ⟨hparser, hgrow, new, hreq, hnew⟩ :=
      readQuery_requests _ (h.parser _ c hobj) hread
    -- first the object is stored with what was read, then the requests of it are sent on
    have hstored := h.update hobj
      { c with
          tcp
          replyList := c.replyList ++ queuedReplies writeString outcome mem
            (tcp.requests.zipIdx.drop c.tcp.requests.length) } rfl hparser
      (fun msg hmsg => hmsg.grow rfl hgrow)
    have hsent := hstored.send
      (sentMsgs (w.connAt fd) c outcome (tcp.requests.zipIdx.drop c.tcp.requests.length)) (by
        intro msg hmsg d hd
        obtain ⟨hconn, hanswers⟩ := answers_of_mem_sentMsgs { c with tcp } rfl
          (fun r hr => hnew r.1 (mem_of_mem_drop_zipIdx (hreq ▸ hr))) hmsg
        rw [hconn, setObject_self] at hd
        cases hd
        exact hanswers.grow rfl ⟨[], by simp⟩)
    split at hclose
    · -- the connection is closed behind that, or it stays
      subst hclose
      exact ⟨hsent.close (setObject_self _ _ _) rfl, rfl⟩
    · subst hclose
      exact ⟨hsent, rfl⟩

/-- The loop of `_write_reply` sends replies and changes nothing else, by induction on the answers
of the socket. -/
theorem writeLoop_frame :
    ∀ (nwritten : List Int) (c : Connection) (r : Bool × Connection),
      writeLoop nwritten c = some r →
      r.2.fd = c.fd ∧ r.2.serial = c.serial ∧ r.2.tcp = c.tcp := by
  intro nwritten
  induction nwritten with
  | nil =>
      intro c r h
      rw [writeLoop] at h
      split at h
      · cases h
        exact ⟨rfl, rfl, rfl⟩
      · cases h
  | cons n nwritten ih =>
      intro c r h
      rw [writeLoop] at h
      split at h
      · cases h
        exact ⟨rfl, rfl, rfl⟩
      · split at h
        · cases h
          exact ⟨rfl, rfl, rfl⟩
        · split at h
          · exact ih c r h
          · split at h
            · have hrest := ih _ r h
              exact hrest
            · have hrest := ih _ r h
              exact hrest

/-- To write a reply answers no request, and may close the connection. -/
theorem WorkerInv.writeReply {w w' : SignalingWorker} (h : WorkerInv w) {fd : Int} {now : Nat}
    {nwritten : List Int} (hw' : w.writeReply fd now nwritten = some w') :
    WorkerInv w' ∧ w'.replies = w.replies := by
  rw [SignalingWorker.writeReply] at hw'
  split at hw'
  · cases hw'
    exact ⟨h, rfl⟩
  · dsimp only at hw'
    split at hw'
    · cases hw'
      exact ⟨h, rfl⟩
    · obtain ⟨c, hobj, hrest⟩ := Option.bind_eq_some_iff.mp hw'
      obtain ⟨r, hloop, hclose⟩ := Option.map_eq_some_iff.mp hrest
      obtain ⟨hfd, hserial, htcp⟩ := writeLoop_frame nwritten c r hloop
      have hparser : ParserInv r.2.tcp := htcp ▸ h.parser _ c hobj
      split at hclose
      · subst hclose
        exact ⟨h.close hobj hfd, rfl⟩
      · subst hclose
        refine ⟨h.update hobj _ hfd ⟨hparser.head, hparser.body⟩ ?_, rfl⟩
        intro msg hmsg
        exact hmsg.grow hserial ⟨[], by simp [htcp]⟩

/-- A timeout answers none either. -/
theorem WorkerInv.timeout {connectionTimeout : Nat} {w w' : SignalingWorker} (h : WorkerInv w)
    {addr : Address} {now : Nat}
    (hw' : w.processTimeout connectionTimeout addr now = some w') :
    WorkerInv w' ∧ w'.replies = w.replies := by
  obtain ⟨c, hobj, hclose⟩ := Option.map_eq_some_iff.mp hw'
  split at hclose
  · subst hclose
    exact ⟨h.close hobj rfl, rfl⟩
  · subst hclose
    exact ⟨h, rfl⟩

/-- An object that the table holds at a descriptor has this descriptor. -/
theorem fd_eq_of_connAt {w : SignalingWorker} (h : WorkerInv w) {fd : Int} {addr : Address}
    {c : Connection} (hconn : addr ≠ nullptr) (hrange : ¬ (fd ≤ 0 ∨ w.OutOfRange fd))
    (hat : w.connAt fd = addr) (hobj : w.objects addr = some c) : c.fd = fd := by
  have hin : ¬ (fd < 0 ∨ w.conns.length ≤ fd.toNat) := fun hout => hrange (Or.inr hout)
  push Not at hin
  have hentry : w.conns[fd.toNat]? = some addr := by
    rw [← hat, connAt, List.getD_eq_getElem?_getD, List.getElem?_eq_getElem hin.2, Option.getD_some]
  obtain ⟨d, hd, hdfd⟩ := h.live fd.toNat addr hentry hconn
  rw [hobj] at hd
  cases hd
  exact hdfd.trans (Int.toNat_of_nonneg hin.1)

/-- The answer to a pending message is queued on the object that sent it, or
nowhere. -/
theorem WorkerInv.answer {w w' : SignalingWorker} (h : WorkerInv w) {msg : RtcMsg}
    {errNo : Int} {sdp : Bytes} {mem : Memory} (hmsg : msg ∈ w.pending)
    (hsound : RepliesSound w)
    (hw' : { w with pending := w.pending.erase msg }.responseServerOffer writeString msg errNo
      sdp mem = some w') :
    WorkerInv w' ∧ RepliesSound w' := by
  have herase : WorkerInv { w with pending := w.pending.erase msg } :=
    ⟨h.live, h.parser, fun m hm => h.owners m (List.mem_of_mem_erase hm)⟩
  rw [SignalingWorker.responseServerOffer] at hw'
  split at hw'
  · cases hw'
    exact ⟨herase, hsound⟩
  · rename_i hconn
    split at hw'
    · cases hw'
      exact ⟨herase, hsound⟩
    · rename_i hrange
      split at hw'
      · cases hw'
        exact ⟨herase, hsound⟩
      · rename_i hat
        obtain ⟨c, hobj, hqueue⟩ := Option.map_eq_some_iff.mp hw'
        -- the table gives the object its descriptor, and the message holds both
        have hcfd : c.fd = msg.fd := fd_eq_of_connAt h hconn hrange (not_not.mp hat) hobj
        have hanswers := h.owners msg hmsg c hobj hcfd
        subst hqueue
        constructor
        · have hstored := herase.update hobj
            { c with replyList := c.replyList ++ [responseServerOfferReply writeString mem
                (c.tcp.querybuf.take xheadSize) errNo sdp] } rfl (h.parser _ c hobj)
            (fun m hm => hm.grow rfl ⟨[], by simp⟩)
          exact ⟨hstored.live, hstored.parser, hstored.owners⟩
        · intro r hr
          rcases List.mem_append.mp hr with hold | hnew
          · exact hsound r hold
          · rw [List.mem_singleton.mp hnew]
            exact ⟨hanswers.serial, hanswers.logId⟩

/-- One event keeps the invariant, unless an accepted connection takes the place of
one that a message is under way for. -/
theorem workerInv_step {connectionTimeout : Nat} (w : SignalingWorker) (e : Event)
    (h : WorkerInv w ∧ RepliesSound w) (hkeeps : KeepsInstances w e) :
    WorkerInv (w.step writeString connectionTimeout e) ∧
      RepliesSound (w.step writeString connectionTimeout e) := by
  obtain ⟨hinv, hsound⟩ := h
  rw [SignalingWorker.step]
  cases hstep : w.tryStep writeString connectionTimeout e with
  | none => exact ⟨hinv, hsound⟩
  | some w' =>
      rw [Option.getD_some]
      have hsame : WorkerInv w' ∧ w'.replies = w.replies → WorkerInv w' ∧ RepliesSound w' := by
        intro ⟨hinv', hreplies⟩
        refine ⟨hinv', ?_⟩
        intro r hr
        exact hsound r (hreplies ▸ hr)
      cases e with
      | newConn fd addr now => exact hsame (hinv.accept hkeeps hstep)
      | readQuery fd now nread outcome fuel mem =>
          exact hsame (hinv.readQuery writeString hstep)
      | writeReply fd now nwritten => exact hsame (hinv.writeReply hstep)
      | timeout addr now => exact hsame (hinv.timeout hstep)
      | answer msg errNo sdp mem =>
          rw [tryStep] at hstep
          split at hstep
          · rename_i hmsg
            exact hinv.answer writeString hmsg hsound hstep
          · cases hstep

/-- Every offer is queued on the very connection that asked for it, with the log id
of its request. This is for every run in which no accepted connection gets both the
descriptor and the address that a pending message holds. -/
theorem always_repliesSound (connectionTimeout : Nat) (events : List Event)
    (hkeeps : Steps (SignalingWorker.step writeString connectionTimeout) KeepsInstances {}
      events) :
    Always (SignalingWorker.step writeString connectionTimeout) RepliesSound {} events := by
  have hinit : WorkerInv {} ∧ RepliesSound {} := ⟨workerInv_init, fun r hr => nomatch hr⟩
  have hrun := always_of_steps (workerInv_step writeString) hinit hkeeps
  exact hrun.imp fun w hw => hw.2

end

/-- A push request with the log id 7 and a body of two bytes. -/
def pushRequest : Bytes :=
  List.replicate 4 0 ++ [0x07, 0x00, 0x00, 0x00] ++ List.replicate 16 0 ++
    [0x02, 0x22, 0x20, 0xfb] ++ List.replicate 4 0 ++ [0x02, 0x00, 0x00, 0x00] ++ [0x7b, 0x7d]

/-- The message that it sends on the first connection. -/
def pushMsg : RtcMsg := { conn := 4096, fd := 5, logId := 7, serial := 0 }

/-- A connection asks for an offer and is closed by its peer. The next connection gets
`fd` and `addr`, and then the offer comes. -/
def reconnect (fd : Int) (addr : Address) : List Event :=
  [.newConn 5 4096 0,
    .readQuery 5 1 (.data pushRequest) (fun _ _ => .offer 0) 4 (fun _ _ => 0),
    .readQuery 5 2 .failed (fun _ _ => .offer 0) 4 (fun _ _ => 0),
    .newConn fd addr 3,
    .answer pushMsg 0 [] (fun _ => 0)]

/-- With another descriptor the offer is queued nowhere. -/
theorem otherDescriptor_repliesSound :
    Always (SignalingWorker.step (fun _ => []) 5000) RepliesSound {} (reconnect 6 4096) := by
  refine always_repliesSound (fun _ => []) 5000 _ ⟨?_, trivial, trivial, ?_, trivial, trivial⟩
  · intro msg hmsg
    cases hmsg
  · show ∀ msg ∈ SignalingWorker.pending _, ¬ (msg.conn = 4096 ∧ msg.fd = 6)
    decide +kernel

/-- With both the descriptor and the address of the first connection, the offer is
queued on the second one. -/
theorem sameDescriptorAndAddress_not_repliesSound :
    ¬ Always (SignalingWorker.step (fun _ => []) 5000) RepliesSound {} (reconnect 5 4096) := by
  intro h
  have hreplies : (run (SignalingWorker.step (fun _ => []) 5000) {} (reconnect 5 4096)).replies
      = [{ msg := pushMsg, serial := 1, header := [] }] := by
    decide +kernel
  have hsound := h.last
  rw [RepliesSound, hreplies] at hsound
  exact absurd (hsound _ (List.mem_singleton.mpr rfl)).serial (by decide)

end Xrtc.Proofs.Server
