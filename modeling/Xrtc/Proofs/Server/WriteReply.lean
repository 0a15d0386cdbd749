import Xrtc.Lib.ChunkQueue
import Xrtc.Lib.Run
import Xrtc.Proofs.Server.ReplyFraming
import Xrtc.Server.WriteReply

/-!
# `Xrtc.Proofs.Server.WriteReply`: what the socket gets of the replies

The replies of a connection and `cur_resp_pos` are a queue of chunks. A round of the loop in
`_write_reply` takes off its front what the socket has taken (`round_spec`), and the loop goes on
until nothing is pending (`loop_of_pending`, `loop_of_nil`).

So what the socket has taken and what is pending make up all the replies queued, in every state
of every run (`WriteInv`, `replies_lossless`).

The same two facts say when a call returns. After a number of answers without an error it still
has to write all but what these answers have taken (`writeReply_writing`). A socket that would
block takes nothing, and the loop tries again, so `returns_iff` asks for an error or for answers
that take all of it.
-/

set_option autoImplicit false

namespace Xrtc.Proofs.Server

open Xrtc.Lib
open Xrtc.Server
open Xrtc.Base (IOWatcher eventRead eventWrite)

/-! ### The queue of replies -/

/-- The bytes of the replies queued, and still in the list. -/
def chunks (c : ReplyWriter) : List Bytes := c.replyList.map Reply.bytes

/-- What is still to be written. -/
def unsent (c : ReplyWriter) : Bytes := ChunkQueue.pending (chunks c) c.curRespPos

/-- `cur_resp_pos` is inside the front reply. -/
def Positioned (c : ReplyWriter) : Prop := ChunkQueue.Positioned (chunks c) c.curRespPos

/-- No reply is empty: a header is in front of each. -/
theorem ne_nil_of_mem_map {replyList : List Reply} :
    ∀ chunk ∈ replyList.map Reply.bytes, chunk ≠ [] := by
  intro chunk hchunk
  obtain ⟨reply, -, rfl⟩ := List.mem_map.mp hchunk
  exact reply.ne_nil

section

variable {c : ReplyWriter}

/-- Nothing is left to send exactly when no reply waits, for a position within the first of them.
-/
theorem unsent_eq_nil_iff (h : Positioned c) : unsent c = [] ↔ c.replyList = [] := by
  unfold unsent
  rw [ChunkQueue.pending_eq_nil_iff h]
  exact List.map_eq_nil_iff

/-- With a reply that waits, the call makes a system call. -/
theorem loop_of_ne_nil (hne : c.replyList ≠ []) : c.loop = .writing c := by
  unfold ReplyWriter.loop
  rw [if_neg (by rw [List.isEmpty_iff]; exact hne)]

/-- Where there is something to write, the loop goes on. -/
theorem loop_of_unsent (h : Positioned c) (hunsent : unsent c ≠ []) : c.loop = .writing c :=
  loop_of_ne_nil fun hnil => hunsent ((unsent_eq_nil_iff h).mpr hnil)

/-- With none, it takes back the interest in writing and returns. -/
theorem loop_of_nil (h : Positioned c) (hunsent : unsent c = []) :
    c.loop = .returned { c with ioWatcher := c.ioWatcher.stopIoEvent eventWrite } := by
  unfold ReplyWriter.loop
  rw [(unsent_eq_nil_iff h).mp hunsent]
  rfl

/-- A reply behind the others leaves the position within the first one. -/
theorem positioned_addReply (h : Positioned c) (reply : Reply) : Positioned (c.addReply reply) := by
  show ChunkQueue.Positioned ((c.replyList ++ [reply]).map Reply.bytes) c.curRespPos
  rw [List.map_append]
  exact ChunkQueue.Positioned.push h reply.ne_nil

/-- The bytes of a new reply go behind those that wait. -/
theorem unsent_addReply (h : Positioned c) (reply : Reply) :
    unsent (c.addReply reply) = unsent c ++ reply.bytes := by
  show ChunkQueue.pending ((c.replyList ++ [reply]).map Reply.bytes) c.curRespPos = _
  rw [List.map_append]
  exact ChunkQueue.pending_push h reply.bytes

/-! ### One round -/

/-- The call of `sock_write_data` fails. -/
def Fails (answer : SysWrite) : Prop := sockWriteData answer = -1

instance (answer : SysWrite) : Decidable (Fails answer) :=
  inferInstanceAs (Decidable (sockWriteData answer = -1))

/-- The bytes that the socket takes with an answer. -/
def taken (answer : SysWrite) : Nat := (sockWriteData answer).toNat

/-- The system takes no more than it is given. -/
theorem taken_le {answer : SysWrite} {len : Nat} (h : answer.Within len) : taken answer ≤ len := by
  cases answer with
  | bytes n => exact h
  | error errno =>
      have hzero : taken (.error errno) = 0 := by
        cases errno with
        | eagain => rfl
        | ewouldblock => rfl
        | other => rfl
      rw [hzero]
      exact Nat.zero_le len

/-- A call that would block takes nothing. -/
theorem taken_eq_zero {answer : SysWrite} (h : sockWriteData answer = 0) : taken answer = 0 := by
  unfold taken
  rw [h]
  rfl

/-- An error takes the front reply with it. -/
theorem round_of_fails {answer : SysWrite} (hne : c.replyList ≠ []) (h : Fails answer) :
    c.round (sockWriteData answer) = .closed { c with replyList := c.replyList.tail } := by
  have hfail : sockWriteData answer = -1 := h
  unfold ReplyWriter.round
  cases hlist : c.replyList with
  | nil => exact absurd hlist hne
  | cons reply replyList => exact if_pos hfail

/-- Any other answer takes its bytes off what is to be written, whether the reply is done or
not, and the loop asks whether there are more. -/
theorem round_spec {answer : SysWrite} (h : Positioned c) (hne : c.replyList ≠ [])
    (hwithin : answer.Within c.toWrite.length) (hsuccess : ¬ Fails answer) :
    ∃ c', c.round (sockWriteData answer) = c'.loop ∧ Positioned c' ∧
      unsent c = c.toWrite.take (taken answer) ++ unsent c' ∧ c'.ioWatcher = c.ioWatcher := by
  have htaken := taken_le hwithin
  have hsuccess : ¬ sockWriteData answer = -1 := hsuccess
  obtain ⟨replyList, pos, watcher⟩ := c
  cases replyList with
  | nil => exact absurd rfl hne
  | cons reply replyList =>
      have hpos : pos < reply.bytes.length := h
      have htoWrite : ReplyWriter.toWrite ⟨reply :: replyList, pos, watcher⟩
          = reply.bytes.drop pos := rfl
      rw [htoWrite] at htaken ⊢
      rw [List.length_drop] at htaken
      have hfits : pos + taken answer ≤ reply.bytes.length := by omega
      have hadvance := ChunkQueue.pending_advance hfits (replyList.map Reply.bytes)
      unfold ReplyWriter.round
      dsimp only
      rw [if_neg hsuccess]
      split
      · -- nothing is taken
        rename_i hzero
        refine ⟨_, rfl, h, ?_, rfl⟩
        rw [taken_eq_zero hzero, List.take_zero]
        rfl
      · split
        · -- the front reply is done
          rename_i hdone
          have hend : pos + taken answer = reply.bytes.length := by
            unfold taken at *
            omega
          refine ⟨_, rfl, ChunkQueue.positioned_zero ne_nil_of_mem_map, ?_, rfl⟩
          rw [hend, ChunkQueue.pending_pop] at hadvance
          exact hadvance
        · rename_i hmore
          have hinside : pos + taken answer < reply.bytes.length := by
            unfold taken at *
            omega
          exact ⟨_, rfl, hinside, hadvance, rfl⟩

end

/-! ### The replies and the loop of the worker -/

/-- The connection with the replies and the position of a writer. -/
def withWriter (conn : Connection) (c : ReplyWriter) : Connection :=
  { conn with replyList := chunks c, curRespPos := c.curRespPos }

/-- A call that has returned takes no further answers. -/
theorem foldl_next_returned (c : ReplyWriter) (nwritten : List Int) :
    nwritten.foldl WriteCall.next (.returned c) = .returned c := by
  induction nwritten with
  | nil => rfl
  | cons n nwritten ih => exact ih

/-- Nor does one that has closed the connection. -/
theorem foldl_next_closed (c : ReplyWriter) (nwritten : List Int) :
    nwritten.foldl WriteCall.next (.closed c) = .closed c := by
  induction nwritten with
  | nil => rfl
  | cons n nwritten ih => exact ih

/-- The loop of the worker's model goes through the same rounds. It is the one that runs in the
model of the whole worker, so what is proved of the calls holds there. -/
theorem writeLoop_eq (conn : Connection) (nwritten : List Int) (c : ReplyWriter) :
    SignalingWorker.writeLoop nwritten (withWriter conn c) =
      match nwritten.foldl WriteCall.next c.loop with
      | .writing _ => none
      | .returned c' => some (false, withWriter conn c')
      | .closed c' => some (true, withWriter conn c') := by
  obtain ⟨replyList, pos, watcher⟩ := c
  induction nwritten generalizing replyList pos with
  | nil =>
      cases replyList with
      | nil => rfl
      | cons reply replyList => rfl
  | cons n nwritten ih =>
      cases replyList with
      | nil =>
          show _ = match nwritten.foldl WriteCall.next (.returned _) with
            | .writing _ => none
            | .returned c' => some (false, withWriter conn c')
            | .closed c' => some (true, withWriter conn c')
          rw [foldl_next_returned]
          rfl
      | cons reply replyList =>
          rw [List.foldl_cons]
          show (if n = -1 then _ else _) = match nwritten.foldl WriteCall.next
              (if n = -1 then _ else _) with
            | .writing _ => none
            | .returned c' => some (false, withWriter conn c')
            | .closed c' => some (true, withWriter conn c')
          -- the branches of the round: an error, nothing written, the reply done or not
          split
          · rw [foldl_next_closed]
            rfl
          · split
            · exact ih (reply :: replyList) pos
            · split
              · rename_i hdone
                have hdone : reply.bytes.length ≤ n.toNat + pos := hdone
                dsimp only
                rw [if_pos hdone]
                exact ih replyList 0
              · rename_i hmore
                have hmore : ¬ reply.bytes.length ≤ n.toNat + pos := hmore
                dsimp only
                rw [if_neg hmore]
                exact ih (reply :: replyList) (pos + n.toNat)

/-! ### Any number of calls -/

/-- All the replies queued on a connection. -/
def queuedBytes (s : WriteRun) : Bytes := (s.queued.map Reply.bytes).flatten

/-- What the socket has taken is the front of the replies queued, and all of them once the list
is empty. -/
structure Lossless (s : WriteRun) (c : ReplyWriter) : Prop where
  inOrder : s.written <+: queuedBytes s
  position : ∀ reply ∈ c.replyList.head?, c.curRespPos < reply.bytes.length
  complete : c.replyList = [] → s.written = queuedBytes s

/-- The invariant of an open connection. -/
structure WriteInv (s : WriteRun) (c : ReplyWriter) : Prop where
  positioned : Positioned c
  stream : s.written ++ unsent c = queuedBytes s
  writeInterest : c.replyList ≠ [] → c.ioWatcher.writeInterest

/-- What was sent is a prefix of what was queued, read off the invariant. -/
theorem WriteInv.lossless {s : WriteRun} {c : ReplyWriter} (h : WriteInv s c) : Lossless s c where
  inOrder := ⟨unsent c, h.stream⟩
  position := by
    intro reply hreply
    have hpos := h.positioned
    obtain ⟨replyList, pos, watcher⟩ := c
    cases replyList with
    | nil => cases hreply
    | cons front replyList =>
        cases hreply
        exact hpos
  complete := by
    intro hnil
    have hstream := h.stream
    rw [(unsent_eq_nil_iff h.positioned).mpr hnil, List.append_nil] at hstream
    exact hstream

/-- The invariant, for as long as the connection is open. -/
def OpenInv (s : WriteRun) : Prop := ∀ c, s.call.open? = some c → WriteInv s c

/-- The condition of the loop keeps the invariant. -/
theorem openInv_loop {s : WriteRun} {c : ReplyWriter} (h : WriteInv s c) :
    OpenInv { s with call := c.loop } := by
  intro c' hopen
  by_cases hunsent : unsent c = []
  · rw [loop_of_nil h.positioned hunsent] at hopen
    cases hopen
    have hnil := (unsent_eq_nil_iff h.positioned).mp hunsent
    exact ⟨h.positioned, h.stream, fun hne => absurd hnil hne⟩
  · rw [loop_of_unsent h.positioned hunsent] at hopen
    cases hopen
    exact ⟨h.positioned, h.stream, h.writeInterest⟩

/-- A call is only inside the loop while there are replies. -/
def Busy (s : WriteRun) : Prop := ∀ c, s.call = .writing c → c.replyList ≠ []

/-- A call that writes has something to write. -/
theorem busy_loop (s : WriteRun) (c : ReplyWriter) : Busy { s with call := c.loop } := by
  intro c' hwriting
  have hloop : c.loop = .writing c' := hwriting
  unfold ReplyWriter.loop at hloop
  split at hloop
  · cases hloop
  · rename_i hnonempty
    cases hloop
    rw [List.isEmpty_iff] at hnonempty
    exact hnonempty

/-- What every event keeps: a reply that is queued, an answer of the socket, or a new call, each
by its own lemma. -/
theorem openInv_step (s : WriteRun) (e : WriteEvent) (s' : WriteRun) (hstep : s.step e = some s')
    (h : OpenInv s ∧ Busy s) : OpenInv s' ∧ Busy s' := by
  obtain ⟨hinv, hbusy⟩ := h
  obtain ⟨call, queued, written⟩ := s
  cases e with
  | addReply reply =>
      cases call with
      | writing c => cases hstep
      | closed c => cases hstep
      | returned c =>
          cases hstep
          have hc := hinv c rfl
          refine ⟨?_, fun c' hwriting => nomatch hwriting⟩
          intro c' hopen
          cases hopen
          refine ⟨positioned_addReply hc.positioned reply, ?_, fun _ => ?_⟩
          · -- the new reply comes behind all that is unsent
            have hstream : written ++ unsent c = (queued.map Reply.bytes).flatten := hc.stream
            show written ++ unsent (c.addReply reply)
              = ((queued ++ [reply]).map Reply.bytes).flatten
            rw [unsent_addReply hc.positioned, ← List.append_assoc, hstream, List.map_append,
              List.flatten_append, List.map_singleton, List.flatten_singleton]
          · exact c.ioWatcher.writeInterest_startIoEvent
  | writeReply =>
      cases call with
      | writing c => cases hstep
      | closed c => cases hstep
      | returned c =>
          cases hstep
          exact ⟨openInv_loop (hinv c rfl), busy_loop _ c⟩
  | answer answer =>
      cases call with
      | returned c => cases hstep
      | closed c => cases hstep
      | writing c =>
          have hc := hinv c rfl
          have hne := hbusy c rfl
          unfold WriteRun.step at hstep
          dsimp only at hstep
          split at hstep
          · rename_i hwithin
            cases hstep
            by_cases hfails : Fails answer
            · -- an error closes the connection, and nothing is said about a closed one
              rw [round_of_fails hne hfails]
              exact ⟨fun c' hopen => (nomatch hopen), fun c' hwriting => nomatch hwriting⟩
            · -- what the socket takes leaves the front of what is unsent
              obtain ⟨c', hround, hpos, hunsent, hwatcher⟩ :=
                round_spec hc.positioned hne hwithin hfails
              rw [hround]
              have hstream : written ++ unsent c = (queued.map Reply.bytes).flatten := hc.stream
              rw [hunsent, ← List.append_assoc] at hstream
              have hinv' :
                  WriteInv ⟨.writing c, queued, written ++ c.toWrite.take (taken answer)⟩ c' :=
                ⟨hpos, hstream, fun _ => hwatcher ▸ hc.writeInterest hne⟩
              exact ⟨openInv_loop hinv',
                busy_loop ⟨.writing c, queued, written ++ c.toWrite.take (taken answer)⟩ c'⟩
          · cases hstep

/-- Every state of every run. -/
theorem openInv_run {es : List WriteEvent} {s : WriteRun}
    (h : runPartial WriteRun.step {} es = some s) : OpenInv s := by
  have hstart : OpenInv {} ∧ Busy {} := by
    refine ⟨?_, fun c hwriting => nomatch hwriting⟩
    intro c hopen
    cases hopen
    exact ⟨rfl, rfl, fun hne => absurd rfl hne⟩
  exact (invariant_of_runPartial openInv_step hstart h).1

/-- In every run, for as long as no error has closed the connection, the socket gets the replies
in the order of the queue, every byte of them once. -/
theorem replies_lossless {es : List WriteEvent} {s : WriteRun} {c : ReplyWriter}
    (h : runPartial WriteRun.step {} es = some s) (hopen : s.call.open? = some c) :
    Lossless s c :=
  (openInv_run h c hopen).lossless

/-- Two replies, with writes of a part and a socket that would block. -/
def twoReplies : List WriteEvent :=
  [.addReply ⟨[1, 2, 3], by decide⟩, .writeReply, .answer (.bytes 2), .answer (.error .eagain),
    .answer (.bytes 1), .addReply ⟨[4, 5], by decide⟩, .writeReply,
    .answer (.error .ewouldblock), .answer (.bytes 1)]

/-- The connection in front of the last byte. -/
def lastByte : ReplyWriter where
  replyList := [⟨[4, 5], by decide⟩]
  curRespPos := 1
  ioWatcher := ⟨3⟩

/-- Two replies, the second of them queued while the first is under way. -/
theorem twoReplies_lossless :
    Lossless ⟨.writing lastByte, [⟨[1, 2, 3], by decide⟩, ⟨[4, 5], by decide⟩], [1, 2, 3, 4]⟩
      lastByte := by
  have hrun : runPartial WriteRun.step {} twoReplies
      = some ⟨.writing lastByte, [⟨[1, 2, 3], by decide⟩, ⟨[4, 5], by decide⟩], [1, 2, 3, 4]⟩ := rfl
  exact replies_lossless hrun rfl

/-! ### One call -/

/-- The answers are ones that `write` can give to the call. -/
def Admissible (c : ReplyWriter) (answers : Nat → SysWrite) : Prop :=
  ∀ k c', c.writeReply answers k = .writing c' → (answers k).Within c'.toWrite.length

/-- The bytes that the socket takes with the first answers. -/
def takenBy (answers : Nat → SysWrite) : Nat → Nat
  | 0 => 0
  | k + 1 => takenBy answers k + taken (answers k)

/-- A call of `_write_reply` gives control back to the event loop. If it does so with an open
connection, then what the socket has not taken is still queued, and the connection waits for the
descriptor to become writable as long as there is any of it. -/
def Returns (c : ReplyWriter) (answers : Nat → SysWrite) : Prop :=
  ∃ k, match c.writeReply answers k with
    | .writing _ => False
    | .closed _ => True
    | .returned c' =>
        unsent c' = (unsent c).drop (takenBy answers k) ∧
          (unsent c' ≠ [] → c'.ioWatcher.writeInterest)

/-- After some answers the call is over, unless there was no error and they have left
something. -/
def Stops (c : ReplyWriter) (answers : Nat → SysWrite) (k : Nat) : Prop :=
  (∃ j < k, Fails (answers j)) ∨ (unsent c).length ≤ takenBy answers k

section

variable {c : ReplyWriter} {answers : Nat → SysWrite}

/-- As long as nothing has stopped the call, there is something left. -/
theorem unsent_ne_nil {c' : ReplyWriter} {k : Nat} (hstops : ¬ Stops c answers k)
    (hunsent : unsent c' = (unsent c).drop (takenBy answers k)) : unsent c' ≠ [] := by
  rw [hunsent]
  intro hnil
  exact hstops (.inr (List.drop_eq_nil_iff.mp hnil))

/-- A round of a call: what is left when the connection is still open. -/
theorem round_unsent {c' : ReplyWriter} {k : Nat} (h : Positioned c')
    (hunsent : unsent c' = (unsent c).drop (takenBy answers k)) (hne : unsent c' ≠ [])
    (hwithin : (answers k).Within c'.toWrite.length) (hsuccess : ¬ Fails (answers k)) :
    ∃ c'', c'.round (sockWriteData (answers k)) = c''.loop ∧ Positioned c'' ∧
      unsent c'' = (unsent c).drop (takenBy answers (k + 1)) := by
  have hlist : c'.replyList ≠ [] := fun hnil => hne ((unsent_eq_nil_iff h).mpr hnil)
  obtain ⟨c'', hround, hpos, hsplit, -⟩ := round_spec h hlist hwithin hsuccess
  refine ⟨c'', hround, hpos, ?_⟩
  have hlength : (c'.toWrite.take (taken (answers k))).length = taken (answers k) := by
    rw [List.length_take, Nat.min_eq_left (taken_le hwithin)]
  have hdrop := congrArg (List.drop (taken (answers k))) hsplit
  rw [List.drop_left' hlength, hunsent, List.drop_drop] at hdrop
  exact hdrop.symm

/-- Until it stops, the call is in the loop, and has written what the socket has taken. Induction
on the number of answers. -/
theorem writeReply_writing (h : Positioned c) (hadmissible : Admissible c answers) {k : Nat}
    (hstops : ¬ Stops c answers k) :
    ∃ c', c.writeReply answers k = .writing c' ∧ Positioned c' ∧
      unsent c' = (unsent c).drop (takenBy answers k) := by
  induction k with
  | zero => exact ⟨c, loop_of_unsent h (unsent_ne_nil hstops rfl), h, rfl⟩
  | succ k ih =>
      have hnotYet : ¬ Stops c answers k := by
        rintro (⟨j, hj, hfails⟩ | hle)
        · exact hstops (.inl ⟨j, Nat.lt_succ_of_lt hj, hfails⟩)
        · exact hstops (.inr (Nat.le_trans hle (Nat.le_add_right _ _)))
      have hsuccess : ¬ Fails (answers k) := fun hfails =>
        hstops (.inl ⟨k, Nat.lt_succ_self k, hfails⟩)
      obtain ⟨c', hwriting, hpos, hunsent⟩ := ih hnotYet
      have hne := unsent_ne_nil hnotYet hunsent
      obtain ⟨c'', hround, hpos'', hunsent''⟩ :=
        round_unsent hpos hunsent hne (hadmissible k c' hwriting) hsuccess
      refine ⟨c'', ?_, hpos'', hunsent''⟩
      show (c.writeReply answers k).next _ = _
      rw [hwriting]
      show c'.round _ = _
      rw [hround]
      -- this round has left something too, so the condition of the loop holds again
      exact loop_of_unsent hpos'' (unsent_ne_nil hstops hunsent'')

/-- A call that stops returns: with an error, or with an empty list. -/
theorem returns_of_stops (h : Positioned c) (hadmissible : Admissible c answers) {k : Nat}
    (hstops : Stops c answers k) : Returns c answers := by
  induction k with
  | zero =>
      have hnil : unsent c = [] := by
        rcases hstops with ⟨j, hj, -⟩ | hle
        · exact absurd hj (Nat.not_lt_zero j)
        · exact List.eq_nil_of_length_eq_zero (Nat.le_zero.mp hle)
      refine ⟨0, ?_⟩
      show match c.loop with
        | .writing _ => False
        | .closed _ => True
        | .returned c' => _
      rw [loop_of_nil h hnil]
      exact ⟨rfl, fun hne => absurd hnil hne⟩
  | succ k ih =>
      by_cases hbefore : Stops c answers k
      · exact ih hbefore
      obtain ⟨c', hwriting, hpos, hunsent⟩ := writeReply_writing h hadmissible hbefore
      have hne := unsent_ne_nil hbefore hunsent
      have hlist : c'.replyList ≠ [] := fun hnil => hne ((unsent_eq_nil_iff hpos).mpr hnil)
      have hnext : c.writeReply answers (k + 1) = c'.round (sockWriteData (answers k)) := by
        show (c.writeReply answers k).next _ = _
        rw [hwriting]
        rfl
      refine ⟨k + 1, ?_⟩
      rw [hnext]
      by_cases hfails : Fails (answers k)
      · rw [round_of_fails hlist hfails]
        trivial
      · obtain ⟨c'', hround, hpos'', hunsent''⟩ :=
          round_unsent hpos hunsent hne (hadmissible k c' hwriting) hfails
        -- without an error, the answers have taken everything
        have hle : (unsent c).length ≤ takenBy answers (k + 1) := by
          rcases hstops with ⟨j, hj, hfailsj⟩ | hle
          · rcases Nat.lt_succ_iff_lt_or_eq.mp hj with hj | rfl
            · exact absurd (.inl ⟨j, hj, hfailsj⟩) hbefore
            · exact absurd hfailsj hfails
          · exact hle
        have hnil : unsent c'' = [] := by
          rw [hunsent'']
          exact List.drop_eq_nil_of_le hle
        rw [hround, loop_of_nil hpos'' hnil]
        exact ⟨hunsent'', fun hne => absurd hnil hne⟩

/-- A call of `_write_reply` returns if and only if an answer of the socket is an error, or some
number of its answers take all that is to be written. A socket that would block answers zero, and
the loop asks it again at once. -/
theorem returns_iff (h : Positioned c) (hadmissible : Admissible c answers) :
    Returns c answers ↔
      (∃ k, Fails (answers k)) ∨ ∃ k, (unsent c).length ≤ takenBy answers k := by
  constructor
  · rintro ⟨k, hreturned⟩
    by_contra hnever
    -- a call that nothing stops is inside the loop after any number of answers
    have hstops : ¬ Stops c answers k := by
      rintro (⟨j, -, hfails⟩ | hle)
      · exact hnever (.inl ⟨j, hfails⟩)
      · exact hnever (.inr ⟨k, hle⟩)
    obtain ⟨c', hwriting, -⟩ := writeReply_writing h hadmissible hstops
    rw [hwriting] at hreturned
    exact hreturned
  · rintro (⟨k, hfails⟩ | ⟨k, hle⟩)
    · exact returns_of_stops h hadmissible (k := k + 1) (.inl ⟨k, Nat.lt_succ_self k, hfails⟩)
    · exact returns_of_stops h hadmissible (.inr hle)

/-- Once the socket would block for ever, a call that is in the loop stays there. -/
theorem writeReply_wouldBlock {c' : ReplyWriter} {k : Nat}
    (hwriting : c.writeReply answers k = .writing c') (hne : c'.replyList ≠ [])
    (hblocks : ∀ j, k ≤ j → sockWriteData (answers j) = 0) (i : Nat) :
    c.writeReply answers (k + i) = .writing c' := by
  induction i with
  | zero => exact hwriting
  | succ i ih =>
      have hloop := loop_of_ne_nil hne
      show (c.writeReply answers (k + i)).next _ = _
      have hblocked := hblocks (k + i) (Nat.le_add_right k i)
      rw [ih]
      show c'.round (sockWriteData (answers (k + i))) = _
      rw [hblocked]
      unfold ReplyWriter.round
      split
      · exact hloop
      · exact hloop

end

/-- A connection with one reply, the header of an empty body. -/
def oneReply : ReplyWriter :=
  ReplyWriter.addReply {} ⟨List.replicate xheadSize 0, by decide⟩

/-- A socket that takes the reply in two parts. -/
def inTwoParts : Nat → SysWrite
  | 0 => .bytes 10
  | 1 => .error .eagain
  | 2 => .bytes 26
  | _ => .error .other

/-- A reply that the system takes in two parts. -/
theorem inTwoParts_returns_iff :
    Returns oneReply inTwoParts ↔
      (∃ k, Fails (inTwoParts k)) ∨ ∃ k, (unsent oneReply).length ≤ takenBy inTwoParts k := by
  refine returns_iff (by show ChunkQueue.Positioned _ _; decide) ?_
  intro k c' hwriting
  match k with
  | 0 =>
      cases hwriting
      decide
  | 1 => trivial
  | 2 =>
      cases hwriting
      decide
  | k + 3 => trivial

/-- Where the socket would block for ever, the call does not return, and the worker does not get
back to the event loop. -/
theorem oneReply_never_returns :
    Positioned oneReply ∧ Admissible oneReply (fun _ => .error .eagain) ∧
      ¬ Returns oneReply fun _ => .error .eagain := by
  refine ⟨by show ChunkQueue.Positioned _ _; decide, fun _ _ _ => trivial, ?_⟩
  rintro ⟨k, hreturned⟩
  have hstarts : oneReply.writeReply (fun _ => .error .eagain) 0 = .writing oneReply := rfl
  have hstays := writeReply_wouldBlock hstarts (by decide) (fun _ _ => rfl) k
  rw [Nat.zero_add] at hstays
  rw [hstays] at hreturned
  exact hreturned

end Xrtc.Proofs.Server
