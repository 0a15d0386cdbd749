import Xrtc.Ice.UdpPort
import Xrtc.Proofs.Ice.SelectedConnection

/-!
# `Xrtc.Proofs.Ice.Authentication`: only authenticated messages change a channel

A datagram is genuine if its fingerprint is right, it decodes, and its integrity
check succeeds: under the port's password for a binding request (`GenuineRequest`),
under the remote password of a connection for a response (`GenuineResponse`).

`only_authenticated` is about every input in every state a channel can reach. A
connection is created only by a genuine binding request with a priority and a user
name for this port, from an address without a connection. A connection becomes
writable only on a genuine success response to a request it sent and has not had
answered, with a remote password that is not empty. A datagram that is neither of
these nor a genuine error response to such a request changes nothing.

Two invariants carry this (`Accountable`): the outstanding requests of a connection
are those of the record, and a connection has outstanding requests, or is writable,
only if it has a remote password.
-/

set_option autoImplicit false

namespace Xrtc.Proofs.Ice

open Xrtc.Lib
open Xrtc.Ice
open Xrtc.Ice.IceTransportChannel

/-! ### User names -/

/-- A split has at least one field. -/
theorem split_ne_nil (d : UInt8) (field source : Bytes) : split d field source ≠ [] := by
  induction source generalizing field with
  | nil => simp [split]
  | cons x source ih =>
      rw [split]
      split
      · simp
      · exact ih _

/-- A single field means that no delimiter is left. -/
theorem split_eq_singleton {d : UInt8} {field source b : Bytes} (h : split d field source = [b]) :
    b = field ++ source ∧ d ∉ source := by
  induction source generalizing field with
  | nil =>
      cases h
      simp
  | cons x source ih =>
      rw [split] at h
      split at h
      · -- a delimiter makes at least two fields
        rw [List.cons.injEq] at h
        exact absurd h.2 (split_ne_nil _ _ _)
      · rename_i hx
        obtain ⟨rfl, hnot⟩ := ih h
        exact ⟨by simp, by simp [hnot, Ne.symm hx]⟩

/-- A name that splits in two parts has one delimiter. -/
theorem split_eq_pair {d : UInt8} {field source a b : Bytes} (h : split d field source = [a, b]) :
    ∃ rest, a = field ++ rest ∧ source = rest ++ d :: b ∧ d ∉ rest ∧ d ∉ b := by
  induction source generalizing field with
  | nil => simp [split] at h
  | cons x source ih =>
      rw [split] at h
      split at h
      · rename_i hx
        rw [List.cons.injEq] at h
        obtain ⟨hb, hnot⟩ := split_eq_singleton h.2
        rw [List.nil_append] at hb
        subst hb
        exact ⟨[], by simp [h.1], by simp [hx], by simp, hnot⟩
      · rename_i hx
        obtain ⟨rest, rfl, rfl, hrest, hb⟩ := ih h
        exact ⟨x :: rest, by simp, by simp, by simp [hrest, Ne.symm hx], hb⟩

/-! ### Genuine messages -/

section

variable (digest : MessageDigest)

/-- A datagram with the right fingerprint that decodes to a message. -/
structure Decodes (data : Bytes) (m : StunMessage) : Prop where
  fingerprint : StunMessage.validateFingerprint digest data = true
  read : StunMessage.read data = some m

/-- A binding request for a port: it has a priority and the user name of the port with
a remote part and one colon, and its integrity check succeeds under the password of
the port. -/
structure GenuineRequest (port : UDPPort) (data : Bytes) (m : StunMessage) (remoteUfrag : Bytes) :
    Prop extends Decodes digest data m where
  type : m.type = stunBindingRequest
  priority : (m.getUInt32 stunAttrPriority).isSome
  username : ∃ attr, m.getByteString stunAttrUsername = some attr ∧
    attr.getString = port.iceParams.iceUfrag ++ colon :: remoteUfrag ∧
    attr.getString.count colon = 1
  integrity : (m.validateMessageIntegrity digest port.iceParams.icePwd).integrity = .integrityOk

/-- A response to a connection: its integrity check succeeds under the remote password
of the connection. -/
structure GenuineResponse (c : IceConnection) (data : Bytes) (m : StunMessage) : Prop extends
    Decodes digest data m where
  integrity :
    (m.validateMessageIntegrity digest c.remoteCandidate.password).integrity = .integrityOk

/-- The integrity check changes nothing but the status and the password of the
message. -/
theorem validateMessageIntegrity_eq (m : StunMessage) (password : Bytes) :
    ∃ status, m.validateMessageIntegrity digest password
      = { m with password := password, integrity := status } := by
  unfold StunMessage.validateMessageIntegrity
  dsimp only
  split_ifs <;> exact ⟨_, rfl⟩

/-- A user name is accepted only as two fragments with one colon between them. -/
theorem parseStunUsername_eq_some {m : StunMessage} {localUfrag remoteUfrag : Bytes}
    (h : UDPPort.parseStunUsername m = some (localUfrag, remoteUfrag)) :
    ∃ attr, m.getByteString stunAttrUsername = some attr ∧
      attr.getString = localUfrag ++ colon :: remoteUfrag ∧ attr.getString.count colon = 1 := by
  unfold UDPPort.parseStunUsername at h
  split at h
  · cases h
  · rename_i attr hattr
    split at h
    · rename_i hsplit
      cases h
      obtain ⟨rest, rfl, hsource, hrest, hremote⟩ := split_eq_pair hsplit
      refine ⟨attr, hattr, hsource, ?_⟩
      rw [hsource, List.count_append, List.count_cons_self, List.count_eq_zero_of_not_mem hrest,
        List.count_eq_zero_of_not_mem hremote]
    · cases h

/-- An accepted message decodes, and an accepted binding request has passed all the
checks but that for a priority. -/
theorem getStunMessage_accepted {port : UDPPort} {data : Bytes} {msg : StunMessage}
    {remoteUfrag : Bytes} (h : UDPPort.getStunMessage digest port data = .accepted msg remoteUfrag) :
    ∃ m, Decodes digest data m ∧ m.type = msg.type ∧ m.transactionId = msg.transactionId ∧
      m.attrs = msg.attrs ∧
      (m.type ≠ stunBindingRequest → m = msg) ∧
      (m.type = stunBindingRequest →
        (∃ attr, m.getByteString stunAttrUsername = some attr ∧
          attr.getString = port.iceParams.iceUfrag ++ colon :: remoteUfrag ∧
          attr.getString.count colon = 1) ∧
        (m.validateMessageIntegrity digest port.iceParams.icePwd).integrity = .integrityOk) := by
  unfold UDPPort.getStunMessage at h
  split at h
  · cases h
  · rename_i hfingerprint
    split at h
    · cases h
    · rename_i m hread
      have hdecodes : Decodes digest data m := ⟨by simpa using hfingerprint, hread⟩
      split at h
      · rename_i htype
        -- a binding request has passed the user name and the integrity
        unfold UDPPort.checkBindingRequest at h
        split at h
        · cases h
        · split at h
          · cases h
          · rename_i localUfrag remoteUfrag' hname
            split at h
            · cases h
            · rename_i hlocal
              dsimp only at h
              split at h
              · cases h
              · rename_i hintegrity
                cases h
                push Not at hlocal hintegrity
                obtain ⟨status, hstatus⟩ :=
                  validateMessageIntegrity_eq digest m port.iceParams.icePwd
                -- the check has changed nothing of the message but the status of its integrity
                refine ⟨m, hdecodes, ?_, ?_, ?_, fun hne => absurd htype hne, fun _ => ?_⟩
                · rw [hstatus]
                · rw [hstatus]
                · rw [hstatus]
                · rw [← hlocal]
                  exact ⟨parseStunUsername_eq_some hname, hintegrity⟩
      · rename_i htype
        cases h
        exact ⟨msg, hdecodes, rfl, rfl, rfl, fun _ => rfl, fun hrequest => absurd hrequest htype⟩

end

/-! ### Outstanding requests -/

/-- The record says that the connection sent a request with this id after it was
created, and has not had it answered. The latest entry comes first. -/
def Outstanding (p : Ptr) (id : Bytes) : List Entry → Prop
  | [] => False
  | .pinged q i :: log => (q = p ∧ i = id) ∨ Outstanding p id log
  | .answered q i :: log => ¬ (q = p ∧ i = id) ∧ Outstanding p id log
  | .created q :: log => q ≠ p ∧ Outstanding p id log
  | _ :: log => Outstanding p id log

/-- Signals in the record are no matter of the requests. -/
theorem outstanding_append_iff {p : Ptr} {id : Bytes} {new log : List Entry}
    (hnew : ∀ e ∈ new, IsSignal e) : Outstanding p id (new ++ log) ↔ Outstanding p id log := by
  induction new with
  | nil => rfl
  | cons e new ih =>
      have hrest := ih fun e' he' => hnew e' (List.mem_cons_of_mem _ he')
      have he := hnew e List.mem_cons_self
      cases e <;> first | exact hrest | cases he

/-- Neither is a packet that is sent. -/
theorem outstanding_send_iff (w : World) (address : SocketAddress) (data : Option Bytes) (p : Ptr)
    (id : Bytes) : Outstanding p id (w.send address data).log ↔ Outstanding p id w.log := by
  cases data <;> rfl

/-- Nor the update of the state, which only signals. -/
theorem outstanding_updateState_iff (w : World) (p : Ptr) (id : Bytes) :
    Outstanding p id (IceTransportChannel.updateState w).log ↔ Outstanding p id w.log := by
  obtain ⟨new, hlog, hnew⟩ := updateState_log w
  rw [hlog]
  refine outstanding_append_iff fun e he => ?_
  rcases hnew e he with ⟨_, rfl⟩ | ⟨_, rfl⟩ | ⟨_, rfl⟩ <;> trivial

/-- Nor sorting the connections, by the same argument over all of its signals. -/
theorem outstanding_sort_iff (w : World) (now : Int) (p : Ptr) (id : Bytes) :
    Outstanding p id (sortConnectionsAndUpdateState w now).log ↔ Outstanding p id w.log := by
  obtain ⟨new, hlog, hnew⟩ := sort_log w now
  rw [hlog]
  show Outstanding p id ((_ :: new) ++ w.log) ↔ _
  refine outstanding_append_iff fun e he => ?_
  rcases List.mem_cons.mp he with rfl | he
  · trivial
  · rcases hnew e he with ⟨_, rfl⟩ | ⟨_, rfl⟩ | ⟨_, rfl⟩ <;> trivial

/-! ### What an action does to one connection -/

/-- The changes of a connection that exists after an action. -/
inductive Change (ok : Permits) (w w' : World) (p : Ptr) : Prop where
  | kept (hlive : p ∈ w.live) (hrequests : (w'.heap p).requests = (w.heap p).requests)
      (hwritable : (w'.heap p).writeState = .writable →
        (w.heap p).writeState = .writable ∨ ok.writable p)
      (hpassword : (w.heap p).remoteCandidate.password ≠ [] →
        (w'.heap p).remoteCandidate.password ≠ [])
      (hlog : ∀ id, Outstanding p id w'.log ↔ Outstanding p id w.log)
  | pinged (hlive : p ∈ w.live) (id : Bytes) (now : Int)
      (hheap : w'.heap p = (w.heap p).notePing id now)
      (hpassword : (w.heap p).writeState = .writable ∨ (w.heap p).remoteCandidate.password ≠ [])
      (hlog : w'.log = .pinged p id :: w.log)
  | answered (hlive : p ∈ w.live) (id : Bytes) (hheap : w'.heap p = (w.heap p).removeRequest id)
      (hlog : w'.log = .answered p id :: w.log)
  | created (hnot : p ∉ w.live) (hcreate : ok.create) (hrequests : (w'.heap p).requests = [])
      (hstate : (w'.heap p).writeState ≠ .writable) (hlog : ∀ id, ¬ Outstanding p id w'.log)

/-- A connection that is only switched. -/
theorem Change.of_selected {ok : Permits} {w w' : World} {p : Ptr} (hlive : p ∈ w.live)
    (hheap : ∃ b, w'.heap p = { w.heap p with selected := b })
    (hlog : ∀ id, Outstanding p id w'.log ↔ Outstanding p id w.log) : Change ok w w' p := by
  obtain ⟨b, hb⟩ := hheap
  refine .kept hlive ?_ ?_ ?_ hlog
  · rw [hb]
  · rw [hb]
    exact Or.inl
  · rw [hb]
    exact fun h => h

/-- A sort after a change of one connection that keeps its requests and a password. -/
theorem Change.of_sort_modify {ok : Permits} {w : World} {p q : Ptr}
    {f : IceConnection → IceConnection} (now : Int) (hlive : p ∈ w.live)
    (hrequests : ∀ c, (f c).requests = c.requests)
    (hwritable : ∀ c, (f c).writeState = .writable → c.writeState = .writable ∨ ok.writable q)
    (hpassword : ∀ c, (f c).remoteCandidate = c.remoteCandidate) :
    Change ok w (sortConnectionsAndUpdateState (w.modify q f) now) p := by
  obtain ⟨b, hb⟩ := switchedWorld_heap (w.modify q f) p
  have hlog : ∀ id, Outstanding p id (sortConnectionsAndUpdateState (w.modify q f) now).log ↔
      Outstanding p id w.log := outstanding_sort_iff _ now p
  by_cases hq : p = q
  · subst hq
    rw [World.modify_heap_self] at hb
    refine .kept hlive ?_ ?_ ?_ hlog
    · rw [sort_heap, hb]
      exact hrequests _
    · rw [sort_heap, hb]
      exact hwritable _
    · rw [sort_heap, hb]
      dsimp only
      rw [hpassword]
      exact fun h => h
  · rw [World.modify_heap_of_ne _ _ hq] at hb
    exact .of_selected hlive ⟨b, by rw [sort_heap, hb]⟩ hlog

/-- Destroying a connection does nothing to the others. The sort behind it may select one of them,
which is no change of a connection. -/
theorem change_destroy {ok : Permits} {w : World} {p q : Ptr} {now : Int}
    (hq : q ∈ (IceConnection.destroy w p now).live) :
    Change ok w (IceConnection.destroy w p now) q := by
  unfold IceConnection.destroy onConnectionDestroyed at *
  dsimp only at *
  split at hq
  · rename_i hselected
    rw [if_pos hselected]
    have hlive := (List.mem_filter.mp hq).1
    rw [sort_live, switchedWorld_live, switchSelectedConnection_live] at hlive
    refine .of_selected hlive ?_ fun id => ?_
    · obtain ⟨b, hb⟩ := switchedWorld_heap (switchSelectedConnection
        { w with controller := w.controller.onConnectionDestroyed p } none) q
      obtain ⟨b', hb'⟩ := switchSelectedConnection_heap
        { w with controller := w.controller.onConnectionDestroyed p } none q
      refine ⟨b, ?_⟩
      show (sortConnectionsAndUpdateState _ now).heap q = _
      rw [sort_heap, hb, hb']
    · show Outstanding q id (sortConnectionsAndUpdateState _ now).log ↔ _
      rw [outstanding_sort_iff, switchSelectedConnection_log]
  · rename_i hselected
    rw [if_neg hselected]
    have hlive := (List.mem_filter.mp hq).1
    rw [updateState_live] at hlive
    refine .of_selected hlive ⟨(w.heap q).selected, ?_⟩ fun id => ?_
    · show (IceTransportChannel.updateState _).heap q = _
      rw [updateState_heap]
    · exact outstanding_updateState_iff _ q id

/-- A new connection, and what its creation does to the others: they may be selected or not, but
none of them becomes writable by it. -/
theorem change_create {allocator : Allocator} {ok : Permits} {w : World} {p : Ptr} (port : Nat)
    (remoteCandidate : Candidate) (address : SocketAddress) (data : Option Bytes) (now : Int)
    (hcreate : ok.create)
    (hp : p ∈ (sortConnectionsAndUpdateState
      ((addConnection (createConnection allocator w port remoteCandidate)
        (allocator.pick w.toCore)).send address data) now).live) :
    Change ok w (sortConnectionsAndUpdateState
      ((addConnection (createConnection allocator w port remoteCandidate)
        (allocator.pick w.toCore)).send address data) now) p := by
  have hfresh := allocator.pick_not_mem w.toCore
  obtain ⟨b, hb⟩ := switchedWorld_heap
    ((addConnection (createConnection allocator w port remoteCandidate)
      (allocator.pick w.toCore)).send address data) p
  rw [World.send_toCore] at hb
  have hheap : (addConnection (createConnection allocator w port remoteCandidate)
      (allocator.pick w.toCore)).heap p
      = Function.update w.heap (allocator.pick w.toCore) { port, remoteCandidate } p := rfl
  have hlog : ∀ id, Outstanding p id (sortConnectionsAndUpdateState
      ((addConnection (createConnection allocator w port remoteCandidate)
        (allocator.pick w.toCore)).send address data) now).log ↔
      allocator.pick w.toCore ≠ p ∧ Outstanding p id w.log := by
    intro id
    rw [outstanding_sort_iff, outstanding_send_iff]
    rfl
  rw [sort_live, switchedWorld_live, World.send_toCore] at hp
  -- `p` is the new connection, which has no requests, or an older one
  rcases List.mem_cons.mp hp with rfl | hp
  · rw [hheap, Function.update_self] at hb
    refine .created hfresh hcreate ?_ ?_ fun id h => ?_
    · rw [sort_heap, hb]
    · rw [sort_heap, hb]
      exact fun h => nomatch h
    · exact ((hlog id).mp h).1 rfl
  · have hne : p ≠ allocator.pick w.toCore := fun heq => hfresh (heq ▸ hp)
    rw [hheap, Function.update_of_ne hne] at hb
    refine .of_selected hp ⟨b, by rw [sort_heap, hb]⟩ fun id => ?_
    rw [hlog]
    exact and_iff_right hne.symm

/-- Each action changes a connection only in the ways that are allowed, by cases on the action. -/
theorem change_of_action {allocator : Allocator} {ok : Permits} {w w' : World} {p : Ptr}
    (haction : Action allocator ok w w') (hp : p ∈ w'.live) : Change ok w w' p := by
  -- an action that does not touch `p` and says nothing about its requests
  have hsame : ∀ {v : World}, p ∈ w.live → v.heap p = w.heap p →
      (∀ id, Outstanding p id v.log ↔ Outstanding p id w.log) → Change ok w v p :=
    fun hlive hheap hlog => .of_selected hlive ⟨(w.heap p).selected, by rw [hheap]⟩ hlog
  cases haction with
  | sent address data => exact hsame hp rfl fun _ => Iff.rfl
  | quiet q f hf =>
      by_cases hq : p = q
      · subst hq
        refine .kept hp ?_ ?_ ?_ fun _ => Iff.rfl
        · rw [World.modify_heap_self, hf.requests]
        · rw [World.modify_heap_self, hf.writeState]
          exact Or.inl
        · rw [World.modify_heap_self]
          exact hf.password _
      · exact hsame hp (World.modify_heap_of_ne _ _ hq) fun _ => Iff.rfl
  | receiving q b now =>
      rw [sort_live, switchedWorld_live] at hp
      exact .of_sort_modify now hp (fun _ => rfl) (fun _ => Or.inl) fun _ => rfl
  | writeState q s now hs =>
      rw [sort_live, switchedWorld_live] at hp
      exact .of_sort_modify now hp (fun _ => rfl) (fun _ h => Or.inr (hs h)) fun _ => rfl
  | sort now =>
      rw [sort_live, switchedWorld_live] at hp
      -- sorting may change which connection is selected, and nothing else of `p`
      obtain ⟨b, hb⟩ := switchedWorld_heap w p
      exact .of_selected hp ⟨b, by rw [sort_heap, hb]⟩ (outstanding_sort_iff w now p)
  | bookkeeping controller params lastPing interval hselected hconnections =>
      exact hsame hp rfl fun _ => Iff.rfl
  | ping q id now hpassword =>
      by_cases hq : p = q
      · subst hq
        exact .pinged hp id now (World.modify_heap_self w p fun c => c.notePing id now) hpassword rfl
      · refine hsame hp (World.modify_heap_of_ne w (fun c => c.notePing id now) hq) fun i => ?_
        show (q = p ∧ id = i) ∨ Outstanding p i w.log ↔ _
        exact or_iff_right fun h => hq h.1.symm
  | answer q id =>
      by_cases hq : p = q
      · subst hq
        exact .answered hp id (World.modify_heap_self w p fun c => c.removeRequest id) rfl
      · refine hsame hp (World.modify_heap_of_ne w (fun c => c.removeRequest id) hq) fun i => ?_
        show ¬ (q = p ∧ id = i) ∧ Outstanding p i w.log ↔ _
        exact and_iff_right fun h => hq h.1.symm
  | create port remoteCandidate address data now hcreate =>
      exact change_create port remoteCandidate address data now hcreate hp
  | destroy q now hdestroy => exact change_destroy hp
  | reuse heap =>
      have hlive : p ∈ w.live := hp
      exact hsame hlive (if_pos hlive) fun _ => Iff.rfl

/-! ### The requests of a connection -/

/-- A ping adds its id. The new request takes the place of an older one with that id. -/
theorem exists_request_notePing (c : IceConnection) (id : Bytes) (now : Int) (i : Bytes) :
    (∃ r ∈ (c.notePing id now).requests, r.id = i) ↔ id = i ∨ ∃ r ∈ c.requests, r.id = i := by
  simp only [IceConnection.notePing, IceConnection.insertRequest, List.mem_cons, List.mem_filter,
    decide_eq_true_eq]
  constructor
  · rintro ⟨r, rfl | ⟨hr, -⟩, hi⟩
    · exact Or.inl hi
    · exact Or.inr ⟨r, hr, hi⟩
  · rintro (hi | ⟨r, hr, hi⟩)
    · exact ⟨_, Or.inl rfl, hi⟩
    · by_cases hid : r.id = id
      · exact ⟨_, Or.inl rfl, hid.symm.trans hi⟩
      · exact ⟨r, Or.inr ⟨hr, hid⟩, hi⟩

/-- An answer takes its id away. -/
theorem exists_request_removeRequest (c : IceConnection) (id i : Bytes) :
    (∃ r ∈ (c.removeRequest id).requests, r.id = i) ↔ id ≠ i ∧ ∃ r ∈ c.requests, r.id = i := by
  simp only [IceConnection.removeRequest, List.mem_filter, decide_eq_true_eq]
  constructor
  · rintro ⟨r, ⟨hr, hid⟩, rfl⟩
    exact ⟨fun heq => hid heq.symm, r, hr, rfl⟩
  · rintro ⟨hne, r, hr, rfl⟩
    exact ⟨r, ⟨hr, fun heq => hne heq.symm⟩, rfl⟩

/-! ### The invariant -/

/-- The requests of a connection are binding requests with the ids that are
outstanding by the record, and a connection that has some, or is writable, has a
remote password. -/
structure Accountable (w : World) : Prop where
  types : ∀ p ∈ w.live, ∀ r ∈ (w.heap p).requests, r.type = stunBindingRequest
  outstanding : ∀ p ∈ w.live, ∀ id,
    (∃ r ∈ (w.heap p).requests, r.id = id) ↔ Outstanding p id w.log
  password : ∀ p ∈ w.live, (w.heap p).writeState = .writable ∨ (w.heap p).requests ≠ [] →
    (w.heap p).remoteCandidate.password ≠ []

/-- An action keeps the invariant, if a connection that it may make writable has a
password. -/
theorem accountable_action {allocator : Allocator} {ok : Permits} {w w' : World}
    (haction : Action allocator ok w w') (h : Accountable w)
    (hok : ∀ p ∈ w.live, ok.writable p → (w.heap p).remoteCandidate.password ≠ []) :
    Accountable w' := by
  -- the three fields, each by what the action does to the connection `p`
  refine ⟨fun p hp => ?_, fun p hp => ?_, fun p hp => ?_⟩
  · cases change_of_action haction hp with
    | kept hlive hrequests _ _ _ =>
        rw [hrequests]
        exact h.types p hlive
    | pinged hlive id now hheap _ _ =>
        rw [hheap]
        intro r hr
        rcases List.mem_cons.mp hr with rfl | hr
        · rfl
        · exact h.types p hlive r (List.mem_filter.mp hr).1
    | answered hlive id hheap _ =>
        rw [hheap]
        exact fun r hr => h.types p hlive r (List.mem_filter.mp hr).1
    | created _ _ hrequests _ _ =>
        rw [hrequests]
        exact fun r hr => nomatch hr
  · intro i
    cases change_of_action haction hp with
    | kept hlive hrequests _ _ hlog =>
        rw [hrequests, hlog]
        exact h.outstanding p hlive i
    | pinged hlive id now hheap _ hlog =>
        rw [hheap, hlog]
        refine (exists_request_notePing _ id now i).trans (or_congr ?_ (h.outstanding p hlive i))
        exact (and_iff_right rfl).symm
    | answered hlive id hheap hlog =>
        rw [hheap, hlog]
        refine (exists_request_removeRequest _ id i).trans (and_congr ?_ (h.outstanding p hlive i))
        exact not_congr (and_iff_right rfl).symm
    | created _ _ hrequests _ hlog =>
        rw [hrequests]
        exact iff_of_false (fun ⟨r, hr, _⟩ => nomatch hr) (hlog i)
  · cases change_of_action haction hp with
    | kept hlive hrequests hwritable hpassword _ =>
        rw [hrequests]
        rintro (hw | hr)
        · -- it was writable before, or this is a change that is permitted
          rcases hwritable hw with hold | hpermit
          · exact hpassword (h.password p hlive (Or.inl hold))
          · exact hpassword (hok p hlive hpermit)
        · exact hpassword (h.password p hlive (Or.inr hr))
    | pinged hlive id now hheap hpassword _ =>
        rw [hheap]
        rcases hpassword with hwritable | hpassword
        · exact fun _ => h.password p hlive (Or.inl hwritable)
        · exact fun _ => hpassword
    | answered hlive id hheap _ =>
        rw [hheap]
        rintro (hw | hr)
        · exact h.password p hlive (Or.inl hw)
        · refine h.password p hlive (Or.inr fun hnil => hr ?_)
          show (w.heap p).requests.filter (·.id ≠ id) = []
          rw [hnil]
          rfl
    | created _ _ hrequests hstate _ =>
        rw [hrequests]
        rintro (hw | hr)
        · exact absurd hw hstate
        · exact absurd rfl hr

/-- What is kept during an event: the invariant, and the password of a connection that
may become writable. -/
theorem accountable_actions {allocator : Allocator} {ok : Permits} {w w' : World}
    (hactions : Actions allocator ok w w') (hexclusive : ok.create → ∀ p, ¬ ok.writable p)
    (h : Accountable w)
    (hok : ∀ p ∈ w.live, ok.writable p → (w.heap p).remoteCandidate.password ≠ []) :
    Accountable w' := by
  refine (preserved_of_reflTransGen
    (P := fun v => Accountable v ∧
      ∀ p ∈ v.live, ok.writable p → (v.heap p).remoteCandidate.password ≠ [])
    (fun v v' haction hv => ⟨accountable_action haction hv.1 hv.2, fun p hp hpermit => ?_⟩)
    hactions ⟨h, hok⟩).1
  cases change_of_action haction hp with
  | kept hlive _ _ hpassword _ => exact hpassword (hv.2 p hlive hpermit)
  | pinged hlive id now hheap _ _ =>
      rw [hheap]
      exact hv.2 p hlive hpermit
  | answered hlive id hheap _ =>
      rw [hheap]
      exact hv.2 p hlive hpermit
  | created _ hcreate _ _ _ => exact absurd hpermit (hexclusive hcreate p)

/-- Every step can be accounted for by the record it leaves, from the actions it is made of. -/
theorem accountable_step (digest : MessageDigest) (allocator : Allocator) {w : World} (e : Event)
    (h : Accountable w) : Accountable (step digest allocator w e) := by
  refine accountable_actions (actions_step digest w e) ?_ h ?_
  · cases e with
    | unknownAddress => exact fun _ p hp => hp
    | _ => exact fun hcreate => nomatch hcreate
  · intro p hp hpermit
    cases e with
    | response q msg now =>
        obtain ⟨rfl, -, request, hrequest, -⟩ := hpermit
        exact h.password p hp (Or.inr (List.ne_nil_of_mem (List.mem_of_find?_eq_some hrequest)))
    | _ => cases hpermit

/-! ### Inputs -/

section

variable {digest : MessageDigest} {allocator : Allocator}

/-- What a datagram does: nothing but a response, or it is a genuine binding request
from a new address, or a genuine response to an outstanding request. -/
inductive Effect (digest : MessageDigest) (allocator : Allocator) (w : World) (port : Nat)
    (addr : SocketAddress) (data : Bytes) (now : Int) (w' : World) : Prop where
  | none (hcore : w'.toCore = w.toCore)
      (hlog : ∀ p id, Outstanding p id w'.log ↔ Outstanding p id w.log)
  | request (m msg : StunMessage) (remoteUfrag : Bytes)
      (haddr : (w.ports port).connections addr = Option.none)
      (hgenuine : GenuineRequest digest (w.ports port) data m remoteUfrag)
      (hstep : w' = step digest allocator w (.unknownAddress port addr msg remoteUfrag now))
  | response (p : Ptr) (m : StunMessage) (request : StunRequest)
      (haddr : (w.ports port).connections addr = some p) (hlive : p ∈ w.live)
      (hgenuine : GenuineResponse digest (w.heap p) data m)
      (htype : m.type = stunBindingResponse ∨ m.type = stunBindingErrorResponse)
      (hrequest : (w.heap p).findRequest m.transactionId = some request)
      (hstep : w' = step digest allocator w
        (.response p (m.validateMessageIntegrity digest (w.heap p).remoteCandidate.password) now))

/-- To send a packet is no effect on the connections. -/
theorem Effect.of_send {w : World} {port : Nat} {addr : SocketAddress} {data : Bytes} {now : Int}
    (address : SocketAddress) (reply : Option Bytes) :
    Effect digest allocator w port addr data now (w.send address reply) :=
  .none (World.send_toCore w address reply) fun p id => outstanding_send_iff w address reply p id

/-- A datagram for a connection: a request is answered, a response that is genuine may change its
connection, and anything else is dropped. -/
theorem effect_connection {w : World} {port : Nat} {addr : SocketAddress} {p : Ptr}
    (haddr : (w.ports port).connections addr = some p) (hlive : p ∈ w.live) (data : Bytes)
    (now : Int) :
    Effect digest allocator w port addr data now
      (IceConnection.onReadPacket digest w p data now) := by
  have hsame : Effect digest allocator w port addr data now w :=
    .none rfl fun _ _ => Iff.rfl
  unfold IceConnection.onReadPacket
  dsimp only
  split
  · exact hsame
  · exact .of_send _ _
  · rename_i msg remoteUfrag hmessage
    obtain ⟨m, hdecodes, htype, -, -, hmsg, -⟩ := getStunMessage_accepted digest hmessage
    split
    · split
      · exact .of_send _ _
      · unfold IceConnection.handleStunBindingRequest
        split
        · exact hsame
        · exact .of_send _ _
    · rename_i hrequest
      obtain rfl := hmsg (htype ▸ hrequest)
      split
      · rename_i hresponse
        split
        · rename_i hintegrity
          cases hfind : (w.heap p).findRequest m.transactionId with
          | none =>
              -- an id that is not outstanding is ignored
              obtain ⟨status, hstatus⟩ :=
                validateMessageIntegrity_eq digest m (w.heap p).remoteCandidate.password
              have hignored : IceConnection.checkResponse w p
                  (m.validateMessageIntegrity digest (w.heap p).remoteCandidate.password) now
                  = w := by
                unfold IceConnection.checkResponse
                rw [hstatus]
                dsimp only
                rw [hfind]
              rw [hignored]
              exact hsame
          | some request =>
              exact .response p m request haddr hlive ⟨hdecodes, hintegrity⟩ hresponse hfind
                (if_pos hlive).symm
        · exact hsame
      · exact hsame

/-- Every datagram has one of the three effects. It goes to the connection of its address, or from
a new address it is a binding request or nothing. -/
theorem effect_datagram {w w' : World} {port : Nat} {addr : SocketAddress} {data : Bytes}
    {now : Int} (h : next digest allocator w (.datagram port addr data now) = some w') :
    Effect digest allocator w port addr data now w' := by
  change UDPPort.onReadPacket digest allocator w port addr data now = some w' at h
  unfold UDPPort.onReadPacket at h
  split at h
  · rename_i p haddr
    split at h
    · rename_i hlive
      cases h
      -- the address is that of a connection
      exact effect_connection haddr hlive data now
    · cases h
  · rename_i haddr
    split at h
    · cases h
      -- from an unknown address: no STUN message
      exact .none rfl fun _ _ => Iff.rfl
    · cases h
      -- a message that is rejected, perhaps with an error response
      exact .of_send _ _
    · rename_i msg remoteUfrag hmessage
      obtain ⟨m, hdecodes, htype, -, hattrs, -, hrequest⟩ := getStunMessage_accepted digest hmessage
      split at h
      · rename_i htype'
        cases h
        have hbinding : m.type = stunBindingRequest := htype.trans htype'
        obtain ⟨husername, hintegrity⟩ := hrequest hbinding
        have hpriority : m.getUInt32 stunAttrPriority = msg.getUInt32 stunAttrPriority := by
          unfold StunMessage.getUInt32 StunMessage.getAttribute
          rw [hattrs]
        -- without a priority there is no connection
        cases hattr : msg.getUInt32 stunAttrPriority with
        | none =>
            have hrejected : onUnknownAddress digest allocator w port addr msg remoteUfrag now
                = w.send addr (bindingErrorResponse digest (w.ports port) msg stunErrorBadRequest
                    stunErrorReasonBadRequest) := by
              unfold onUnknownAddress
              rw [hattr]
            rw [hrejected]
            exact .of_send _ _
        | some attr =>
            refine .request m msg remoteUfrag haddr ⟨hdecodes, hbinding, ?_, husername, hintegrity⟩
              rfl
            rw [hpriority, hattr]
            rfl
      · cases h
        exact .none rfl fun _ _ => Iff.rfl

/-- Every input keeps the account, with requests and responses among them: a connection that
becomes writable has had a request answered that it had sent. -/
theorem accountable_next {w w' : World} {i : Input} (h : next digest allocator w i = some w')
    (hw : Accountable w) : Accountable w' := by
  cases i with
  | datagram port addr data now =>
      cases effect_datagram h with
      | none hcore hlog =>
          refine ⟨?_, ?_, ?_⟩
          · rw [hcore]
            exact hw.types
          · rw [hcore]
            exact fun p hp id => (hw.outstanding p hp id).trans (hlog p id).symm
          · rw [hcore]
            exact hw.password
      -- a genuine datagram is an event of the channel, as the other inputs are
      | request m msg remoteUfrag haddr hgenuine hstep =>
          rw [hstep]
          exact accountable_step digest allocator _ hw
      | response p m request haddr hlive hgenuine htype hrequest hstep =>
          rw [hstep]
          exact accountable_step digest allocator _ hw
  | tick now id =>
      cases h
      exact accountable_step digest allocator _ hw
  | setRemoteIceParams params now =>
      cases h
      exact accountable_step digest allocator _ hw
  | reuse heap =>
      cases h
      exact accountable_step digest allocator _ hw

/-- The channel starts with nothing to account for. -/
theorem accountable_init (heap : Ptr → IceConnection) (params : Nat → IceParameters)
    (localCandidate : Nat → Candidate) : Accountable (World.init heap params localCandidate) :=
  ⟨fun _ hp => (nomatch hp), fun _ hp => (nomatch hp), fun _ hp => (nomatch hp)⟩

/-! ### The result -/

/-- A connection exists after a sequence of actions only if it did before or one may be
created. -/
theorem live_of_actions {ok : Permits} {w w' : World} (h : Actions allocator ok w w') {p : Ptr}
    (hp : p ∈ w'.live) : p ∈ w.live ∨ ok.create := by
  refine preserved_of_reflTransGen (P := fun v => ∀ p ∈ v.live, p ∈ w.live ∨ ok.create)
    (fun v v' haction hv p hp => ?_) h (fun p hp => Or.inl hp) p hp
  cases change_of_action haction hp with
  | kept hlive | pinged hlive | answered hlive => exact hv p hlive
  | created _ hcreate => exact Or.inr hcreate

/-- A connection is writable after a sequence of actions only if it was before or it may
become writable. -/
theorem writable_of_actions {ok : Permits} {w w' : World} (h : Actions allocator ok w w') {p : Ptr}
    (hp : p ∈ w'.live) (hwritable : (w'.heap p).writeState = .writable) :
    (p ∈ w.live ∧ (w.heap p).writeState = .writable) ∨ ok.writable p := by
  refine preserved_of_reflTransGen
    (P := fun v => ∀ p ∈ v.live, (v.heap p).writeState = .writable →
      (p ∈ w.live ∧ (w.heap p).writeState = .writable) ∨ ok.writable p)
    (fun v v' haction hv p hp hwritable => ?_) h (fun p hp hw => Or.inl ⟨hp, hw⟩) p hp hwritable
  cases change_of_action haction hp with
  | kept hlive _ hold =>
      rcases hold hwritable with hold | hpermit
      · exact hv p hlive hold
      · exact Or.inr hpermit
  | pinged hlive id now hheap =>
      rw [hheap] at hwritable
      exact hv p hlive hwritable
  | answered hlive id hheap =>
      rw [hheap] at hwritable
      exact hv p hlive hwritable
  | created _ _ _ hstate => exact absurd hwritable hstate

variable (digest) in
/-- The input is a genuine binding request from an address without a connection. -/
def IsRequest (w : World) (i : Input) : Prop :=
  ∃ port addr data now m remoteUfrag, i = .datagram port addr data now ∧
    (w.ports port).connections addr = none ∧
    GenuineRequest digest (w.ports port) data m remoteUfrag

variable (digest) in
/-- The input is a genuine response of a given type to a request that the connection of
its address sent and has not had answered. -/
def IsResponse (w : World) (i : Input) (type : UInt16) (p : Ptr) : Prop :=
  ∃ port addr data now m, i = .datagram port addr data now ∧
    (w.ports port).connections addr = some p ∧ GenuineResponse digest (w.heap p) data m ∧
    m.type = type ∧ Outstanding p m.transactionId w.log

/-- What an input may do is given by its effect, or it is no datagram and may do
nothing of interest. -/
theorem next_cases {w w' : World} {i : Input} (h : next digest allocator w i = some w')
    (hw : Accountable w) :
    (w'.toCore = w.toCore) ∨
      ∃ ok, Actions allocator ok w w' ∧
        (ok.create → IsRequest digest w i) ∧
        (∀ p, ok.writable p → IsResponse digest w i stunBindingResponse p ∧
          (w.heap p).remoteCandidate.password ≠ []) ∧
        ((∃ port addr data now, i = .datagram port addr data now) → IsRequest digest w i ∨
          ∃ p, IsResponse digest w i stunBindingResponse p ∨
            IsResponse digest w i stunBindingErrorResponse p) := by
  cases i with
  | datagram port addr data now =>
      cases effect_datagram h with
      | none hcore hlog => exact Or.inl hcore
      | request m msg remoteUfrag haddr hgenuine hstep =>
          have hrequest : IsRequest digest w (.datagram port addr data now) :=
            ⟨port, addr, data, now, m, remoteUfrag, rfl, haddr, hgenuine⟩
          refine Or.inr ⟨_, hstep ▸ actions_step digest w _, fun _ => hrequest,
            fun p hp => ?_, fun _ => Or.inl hrequest⟩
          cases hp
      | response p m request haddr hlive hgenuine htype hrequest hstep =>
          have hmem := List.mem_of_find?_eq_some hrequest
          have hid : request.id = m.transactionId := by
            simpa using List.find?_some hrequest
          have houtstanding : Outstanding p m.transactionId w.log :=
            (hw.outstanding p hlive _).mp ⟨request, hmem, hid⟩
          refine Or.inr ⟨_, hstep ▸ actions_step digest w _, fun hcreate => ?_, fun q hq => ?_,
            fun _ => Or.inr ⟨p, ?_⟩⟩
          · cases hcreate
          · obtain ⟨rfl, -, request', hrequest', hsuccess⟩ := hq
            -- the only requests are binding requests, so this is a binding response
            obtain ⟨status, hstatus⟩ :=
              validateMessageIntegrity_eq digest m (w.heap q).remoteCandidate.password
            rw [hstatus] at hrequest' hsuccess
            rw [hw.types q hlive request' (List.mem_of_find?_eq_some hrequest')] at hsuccess
            have hbinding : m.type = stunBindingResponse :=
              UInt16.toNat_inj.mp (Int.ofNat_inj.mp hsuccess)
            exact ⟨⟨port, addr, data, now, m, rfl, haddr, hgenuine, hbinding, houtstanding⟩,
              hw.password q hlive (Or.inr (List.ne_nil_of_mem hmem))⟩
          · rcases htype with htype | htype
            · exact Or.inl ⟨port, addr, data, now, m, rfl, haddr, hgenuine, htype, houtstanding⟩
            · exact Or.inr ⟨port, addr, data, now, m, rfl, haddr, hgenuine, htype, houtstanding⟩
  | tick now id =>
      cases h
      exact Or.inr ⟨_, actions_step digest w (.tick now id), fun hc => (nomatch hc),
        fun p hp => (nomatch hp), fun ⟨_, _, _, _, heq⟩ => (nomatch heq)⟩
  | setRemoteIceParams params now =>
      cases h
      exact Or.inr ⟨_, actions_step digest w (.setRemoteIceParams params now),
        fun hc => (nomatch hc), fun p hp => (nomatch hp), fun ⟨_, _, _, _, heq⟩ => (nomatch heq)⟩
  | reuse heap =>
      cases h
      exact Or.inr ⟨_, actions_step digest w (.reuse heap), fun hc => (nomatch hc),
        fun p hp => (nomatch hp), fun ⟨_, _, _, _, heq⟩ => (nomatch heq)⟩

end

/-- For every input in every state a channel can reach: a connection is created only by
a genuine binding request, a connection becomes writable only on a genuine success
response to a request it has outstanding, with a remote password that is not empty,
and any other datagram changes nothing, but for genuine error responses. -/
theorem only_authenticated (digest : MessageDigest) (allocator : Allocator)
    (heap : Ptr → IceConnection) (params : Nat → IceParameters)
    (localCandidate : Nat → Candidate) (inputs : List Input) (i : Input) (w w' : World)
    (hw : runPartial (next digest allocator) (World.init heap params localCandidate) inputs
      = some w)
    (hnext : next digest allocator w i = some w') :
    (∀ p ∈ w'.live, p ∉ w.live → IsRequest digest w i) ∧
      (∀ p ∈ w'.live, (w'.heap p).writeState = .writable →
        (p ∈ w.live ∧ (w.heap p).writeState = .writable) ∨
          (IsResponse digest w i stunBindingResponse p ∧
            (w.heap p).remoteCandidate.password ≠ [])) ∧
      ((∃ port addr data now, i = .datagram port addr data now) → ¬ IsRequest digest w i →
        (∀ p, ¬ IsResponse digest w i stunBindingResponse p) →
        (∀ p, ¬ IsResponse digest w i stunBindingErrorResponse p) → w'.toCore = w.toCore) := by
  have haccountable : Accountable w :=
    invariant_of_runPartial (fun _ _ _ hstep hs => accountable_next hstep hs)
      (accountable_init heap params localCandidate) hw
  -- either nothing changes but the log, or all changes are permitted by what has arrived
  rcases next_cases hnext haccountable with hcore | ⟨ok, hactions, hcreate, hwritable, hother⟩
  · refine ⟨fun p hp hnot => ?_, fun p hp hwritable => ?_, fun _ _ _ _ => hcore⟩
    · rw [hcore] at hp
      exact absurd hp hnot
    · rw [hcore] at hp hwritable
      exact Or.inl ⟨hp, hwritable⟩
  · refine ⟨fun p hp hnot => ?_, fun p hp hp' => ?_, fun hdatagram hrequest hsuccess herror => ?_⟩
    · rcases live_of_actions hactions hp with hlive | hpermit
      · exact absurd hlive hnot
      · exact hcreate hpermit
    · exact (writable_of_actions hactions hp hp').imp_right (hwritable p)
    · rcases hother hdatagram with h | ⟨p, h | h⟩
      · exact absurd h hrequest
      · exact absurd h (hsuccess p)
      · exact absurd h (herror p)

/-! #### A peer that answers with an error -/

/-- The HMAC-SHA1 of `peerRequest` under the password `lp`. -/
def peerRequestHmac : Vector UInt8 20 :=
  #v[0xe1, 0x29, 0xbe, 0x04, 0x6e, 0x05, 0xb0, 0xa0, 0x3d, 0xa3, 0xf4, 0xfe, 0xaf, 0xf2, 0x0a, 0x24,
    0x44, 0x32, 0x24, 0x06]

/-- The HMAC-SHA1 of `peerError` under the password `rp`. -/
def peerErrorHmac : Vector UInt8 20 :=
  #v[0x89, 0xea, 0x45, 0x7e, 0x8e, 0x6f, 0x96, 0x91, 0xb1, 0x2f, 0xba, 0x3b, 0x07, 0x14, 0x73, 0x1d,
    0x00, 0x4f, 0x6d, 0xe7]

/-- The HMAC-SHA1 of the ping to the peer under the password `rp`. -/
def pingHmac : Vector UInt8 20 :=
  #v[0xeb, 0x5a, 0xab, 0x9d, 0x19, 0x34, 0xe1, 0x19, 0x8d, 0x6b, 0xe8, 0xb1, 0x7b, 0x59, 0x45, 0xc4,
    0xc4, 0xd0, 0xe9, 0x8f]

/-- The HMAC-SHA1 of the response to the peer under the password `lp`. -/
def responseHmac : Vector UInt8 20 :=
  #v[0x96, 0xa3, 0xf5, 0x96, 0x20, 0xfb, 0x0d, 0xbf, 0x05, 0x21, 0xb0, 0xab, 0x36, 0x7c, 0xb8, 0x7b,
    0x05, 0x6f, 0xeb, 0xa7]

/-- The digests of the four messages below, told apart by their length. -/
def peerDigest : MessageDigest where
  hmacSha1 _ data :=
    if data.length = 36 then peerRequestHmac.toList
    else if data.length = 40 then peerErrorHmac.toList
    else if data.length = 52 then pingHmac.toList
    else responseHmac.toList
  crc32 data :=
    if data.length = 60 then 0x9ea00d44
    else if data.length = 64 then 0xf3ece9c7
    else if data.length = 76 then 0x07d8df40
    else 0xdc04b001
  hmacSha1_length key data := by
    split_ifs <;> exact Vector.length_toList

/-- A binding request with the user name `l:r` and a priority. -/
def peerRequest : Bytes :=
  [0x00, 0x01, 0x00, 0x30, 0x21, 0x12, 0xa4, 0x42] ++ emptyTransactionId ++
    [0x00, 0x06, 0x00, 0x03, 0x6c, 0x3a, 0x72, 0x00] ++
    [0x00, 0x24, 0x00, 0x04, 0x6e, 0x7f, 0x1e, 0xff] ++
    [0x00, 0x08, 0x00, 0x14] ++ peerRequestHmac.toList ++
    [0x80, 0x28, 0x00, 0x04, 0xcd, 0xf4, 0x58, 0x0a]

/-- The transaction id of the ping. -/
def pingId : Bytes := ascii "123412341234"

/-- An error response to the ping, with the code 400. -/
def peerError : Bytes :=
  [0x01, 0x11, 0x00, 0x34, 0x21, 0x12, 0xa4, 0x42] ++ pingId ++
    [0x00, 0x09, 0x00, 0x0f, 0x00, 0x00, 0x04, 0x00] ++ ascii "Bad request" ++ [0x00] ++
    [0x00, 0x08, 0x00, 0x14] ++ peerErrorHmac.toList ++
    [0x80, 0x28, 0x00, 0x04, 0xa0, 0xb8, 0xbc, 0x89]

def peerAddress : SocketAddress := ⟨.v4 1, 1⟩

/-- A channel whose ports have the user name `l` and the password `lp`. -/
def peerChannel : World :=
  World.init (fun _ => { port := 0, remoteCandidate := noCandidate })
    (fun _ => ⟨ascii "l", ascii "lp"⟩) (fun _ => noCandidate)

/-- The request creates a connection, so it is genuine. -/
theorem peerRequest_isRequest :
    ∃ w', next peerDigest nextFree peerChannel (.datagram 0 peerAddress peerRequest 910) = some w' ∧
      1 ∈ w'.live ∧ IsRequest peerDigest peerChannel (.datagram 0 peerAddress peerRequest 910) := by
  have hlive : (next peerDigest nextFree peerChannel
      (.datagram 0 peerAddress peerRequest 910)).map (·.live) = some [1] := by
    decide +kernel
  obtain ⟨w', hnext, hw'⟩ := Option.map_eq_some_iff.mp hlive
  have hmem : 1 ∈ w'.live := by
    rw [hw']
    exact List.mem_singleton.mpr rfl
  exact ⟨w', hnext, hmem,
    (only_authenticated _ _ _ _ _ [] _ peerChannel w' rfl hnext).1 1 hmem (fun h => nomatch h)⟩

/-- The parameters of the peer arrive, it asks for a connection, and is pinged. -/
def peerInputs : List Input :=
  [.setRemoteIceParams ⟨ascii "r", ascii "rp"⟩ 900, .datagram 0 peerAddress peerRequest 910,
    .tick 1000 pingId]

/-- A genuine error response is neither a binding request nor a success response, but
the connection is destroyed. -/
theorem peerError_changes_connections :
    ∃ w w', runPartial (next peerDigest nextFree) peerChannel peerInputs = some w ∧
      next peerDigest nextFree w (.datagram 0 peerAddress peerError 1010) = some w' ∧
      ¬ IsRequest peerDigest w (.datagram 0 peerAddress peerError 1010) ∧
      (∀ p, ¬ IsResponse peerDigest w (.datagram 0 peerAddress peerError 1010)
        stunBindingResponse p) ∧
      w'.controller.connections ≠ w.controller.connections := by
  have hbefore : (runPartial (next peerDigest nextFree) peerChannel peerInputs).map
      (fun w => (w.controller.connections, (w.ports 0).connections peerAddress))
      = some ([1], some 1) := by
    decide +kernel
  have hafter : ((runPartial (next peerDigest nextFree) peerChannel peerInputs).bind fun w =>
      next peerDigest nextFree w (.datagram 0 peerAddress peerError 1010)).map
      (fun w => w.controller.connections) = some [] := by
    decide +kernel
  have htype : (StunMessage.read peerError).map (·.type) = some stunBindingErrorResponse := by
    decide +kernel
  obtain ⟨w, hw, hconnections⟩ := Option.map_eq_some_iff.mp hbefore
  rw [hw] at hafter
  obtain ⟨w', hw', hnone⟩ := Option.map_eq_some_iff.mp hafter
  rw [Prod.mk.injEq] at hconnections
  refine ⟨w, w', hw, hw', ?_, ?_, ?_⟩
  · -- the address is known, so this is no request from an unknown one
    rintro ⟨port, addr, data, now, m, remoteUfrag, hi, haddr, -⟩
    cases hi
    rw [hconnections.2] at haddr
    cases haddr
  · rintro p ⟨port, addr, data, now, m, hi, -, hgenuine, hm, -⟩
    cases hi
    rw [hgenuine.read, Option.map_some, Option.some.injEq, hm] at htype
    cases htype
  · rw [hnone, hconnections.1]
    exact fun h => nomatch h

end Xrtc.Proofs.Ice
