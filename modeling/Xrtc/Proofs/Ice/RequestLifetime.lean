import Xrtc.Ice.RequestLifetime
import Xrtc.Lib.Run
import Xrtc.Proofs.Ice.AddressMap
import Xrtc.Proofs.Ice.PingCredit

/-!
# `Xrtc.Proofs.Ice.RequestLifetime`: every request is deleted once

While a connection lives, the objects that exist are the connection, its manager and the
requests in the map (`Tracked`). A ping adds a request, a response deletes the one it is
for, and the destruction of the connection deletes what is left.

One case does not fit. An error response with a code that is not tolerated destroys the
connection inside `check_response`, while this still holds the request. The manager's
destructor deletes the request, and `check_response` deletes it again when the call has
returned. `freed_iff` says that this is the only way to go wrong.
-/

set_option autoImplicit false

namespace Xrtc.Proofs.Ice

open Xrtc.Lib
open Xrtc.Lib.Lifetime
open Xrtc.Ice

/-! ### The property -/

/-- No object is used before it is created or after it is deleted, every request that was
created is deleted exactly once, and before its manager. -/
structure Freed (trace : List (Op StunObject)) : Prop where
  safe : Safe ∅ trace
  once : ∀ id, .create (.request id) ∈ trace → trace.count (.delete (.request id)) = 1
  beforeManager : ∀ earlier later, trace = earlier ++ .delete .manager :: later →
    ∀ id, .create (.request id) ∈ trace → .delete (.request id) ∈ earlier

/-- A response destroys the connection: it is an error response to an outstanding request,
with a code that is not tolerated. -/
def FatalError (c : IceConnection) (msg : StunMessage) : Prop :=
  ∃ request, c.findRequest msg.transactionId = some request ∧
    (msg.type.toNat : Int) = getStunErrorResponse request.type ∧ ¬ Tolerated msg

/-- The event does not destroy the connection. -/
def NotFatal (p : Ptr) (s : TracedRun) : RequestEvent → Prop
  | .ping _ _ => True
  | .response msg _ => p ∈ s.world.live → ¬ FatalError (s.world.heap p) msg

/-! ### The pieces of a trace -/

section

variable {live : Finset StunObject}

/-- The deletion of a request that exists. -/
theorem safe_deleteRequest {id : Bytes} (hmanager : .manager ∈ live)
    (hrequest : .request id ∈ live) : Safe live (Trace.deleteRequest id) :=
  ⟨hrequest, hmanager, hrequest, hrequest, trivial⟩

/-- After its deletion a request is not alive. -/
theorem liveAfter_deleteRequest (id : Bytes) :
    liveAfter live (Trace.deleteRequest id) = live.erase (.request id) := rfl

/-- The manager's destructor deletes the requests of the map, and each of them once. -/
theorem safe_deleteRequests {requests : List StunRequest} (hmanager : .manager ∈ live)
    (hlive : ∀ request ∈ requests, .request request.id ∈ live)
    (hnodup : (requests.map (·.id)).Nodup) :
    Safe live (Trace.deleteRequests requests) ∧
      ∀ o, o ∈ liveAfter live (Trace.deleteRequests requests) ↔
        o ∈ live ∧ ∀ request ∈ requests, o ≠ .request request.id := by
  -- on the requests; each is deleted once because the ids differ
  induction requests generalizing live with
  | nil => exact ⟨trivial, fun o => by simp [Trace.deleteRequests]⟩
  | cons request requests ih =>
      obtain ⟨hnotin, hrest⟩ := List.nodup_cons.mp hnodup
      have hhead := hlive request List.mem_cons_self
      have hmanager' : .manager ∈ live.erase (.request request.id) :=
        Finset.mem_erase.mpr ⟨StunObject.noConfusion, hmanager⟩
      have hlive' : ∀ other ∈ requests, .request other.id ∈ live.erase (.request request.id) := by
        intro other hother
        refine Finset.mem_erase.mpr ⟨fun heq => hnotin ?_, hlive other
          (List.mem_cons_of_mem _ hother)⟩
        exact List.mem_map.mpr ⟨other, hother, StunObject.request.inj heq⟩
      obtain ⟨hsafe, hafter⟩ := ih hmanager' hlive' hrest
      have htrace : Trace.deleteRequests (request :: requests)
          = (.use .manager :: Trace.deleteRequest request.id) ++ Trace.deleteRequests requests :=
        List.flatMap_cons
      rw [htrace]
      constructor
      · rw [safe_append_iff]
        exact ⟨⟨hmanager, safe_deleteRequest hmanager hhead⟩, hsafe⟩
      · intro o
        rw [liveAfter_append]
        show o ∈ liveAfter (live.erase (.request request.id)) _ ↔ _
        rw [hafter o, Finset.mem_erase, List.forall_mem_cons]
        tauto

/-- The objects that exist while a connection does. -/
def Objects (c : IceConnection) (live : Finset StunObject) : Prop :=
  ∀ o, o ∈ live ↔
    o = .connection ∨ o = .manager ∨ ∃ request ∈ c.requests, o = .request request.id

/-- The destruction of a connection deletes all that exists: its requests one by one, the manager
behind them, and itself at the end. None of them occurs twice. -/
theorem safe_destroy {c : IceConnection} (h : Objects c live)
    (hnodup : (c.requests.map (·.id)).Nodup) :
    Safe live (Trace.destroy c) ∧ liveAfter live (Trace.destroy c) = ∅ := by
  have hconnection : .connection ∈ live := (h _).mpr (Or.inl rfl)
  have hmanager : .manager ∈ live := (h _).mpr (Or.inr (Or.inl rfl))
  obtain ⟨hsafe, hafter⟩ := safe_deleteRequests hmanager
    (fun request hmem => (h _).mpr (Or.inr (Or.inr ⟨request, hmem, rfl⟩))) hnodup
  have hmanager' : .manager ∈ liveAfter live (Trace.deleteRequests c.requests) :=
    (hafter _).mpr ⟨hmanager, fun _ _ => StunObject.noConfusion⟩
  have hconnection' : .connection ∈ liveAfter live (Trace.deleteRequests c.requests) :=
    (hafter _).mpr ⟨hconnection, fun _ _ => StunObject.noConfusion⟩
  constructor
  · show Op.Allowed live (.use .connection) ∧ Safe live (Trace.deleteConnection c)
    rw [Trace.deleteConnection, safe_append_iff]
    refine ⟨hconnection, hsafe, hmanager', hmanager', ?_, trivial⟩
    exact Finset.mem_erase.mpr ⟨StunObject.noConfusion, hconnection'⟩
  · show liveAfter live (Trace.deleteConnection c) = ∅
    rw [Trace.deleteConnection, liveAfter_append, Finset.eq_empty_iff_forall_notMem]
    intro o hmem
    obtain ⟨hne, hmem⟩ := Finset.mem_erase.mp hmem
    obtain ⟨hne', hmem⟩ := Finset.mem_erase.mp hmem
    obtain ⟨hmem, hnone⟩ := (hafter o).mp hmem
    rcases (h o).mp hmem with rfl | rfl | ⟨request, hrequest, rfl⟩
    · exact hne rfl
    · exact hne' rfl
    · exact hnone request hrequest rfl

end

/-! ### The invariant -/

/-- The trace of a connection that exists: it is safe, it leaves the objects of the
connection, and it has created no request twice and the manager is still there. -/
structure Tracked (c : IceConnection) (trace : List (Op StunObject)) : Prop where
  safe : Safe ∅ trace
  objects : Objects c (liveAfter ∅ trace)
  nodup : (c.requests.map (·.id)).Nodup
  createdOnce : ∀ id, trace.count (.create (.request id)) ≤ 1
  manager : .delete .manager ∉ trace

/-- Which objects are alive is a matter of the requests only. -/
theorem Objects.congr {c c' : IceConnection} {live : Finset StunObject} (h : Objects c live)
    (hrequests : c'.requests = c.requests) : Objects c' live := by
  intro o
  rw [hrequests]
  exact h o

/-- A ping with a new transaction id creates its request and uses it. It was not there before, so
nothing is created twice. -/
theorem tracked_ping {c c' : IceConnection} {trace : List (Op StunObject)} {id : Bytes} {now : Int}
    (h : Tracked c trace) (hfresh : .create (.request id) ∉ trace)
    (hrequests : c'.requests = (c.insertRequest ⟨id, stunBindingRequest, now⟩).requests) :
    Tracked c' (trace ++ Trace.ping id) := by
  have hconnection : .connection ∈ liveAfter ∅ trace := (h.objects _).mpr (Or.inl rfl)
  have hmanager : .manager ∈ liveAfter ∅ trace := (h.objects _).mpr (Or.inr (Or.inl rfl))
  have hnew : .request id ∉ liveAfter ∅ trace := by
    intro hmem
    rcases mem_liveAfter hmem with hmem | hmem
    · exact absurd hmem (Finset.notMem_empty _)
    · exact hfresh hmem
  have hafter : liveAfter (liveAfter ∅ trace) (Trace.ping id)
      = insert (.request id) (liveAfter ∅ trace) := rfl
  -- the fields of `Tracked`: safe, the objects, no id twice, created once, the manager
  refine ⟨?_, ?_, ?_, ?_, ?_⟩
  · rw [safe_append_iff]
    have hconnection' := Finset.mem_insert_of_mem (b := .request id) hconnection
    have hmanager' := Finset.mem_insert_of_mem (b := .request id) hmanager
    have hself := Finset.mem_insert_self (.request id) (liveAfter ∅ trace)
    exact ⟨h.safe, hconnection, hnew, hself, hconnection', hmanager', hself, hconnection',
      hmanager', hself, hmanager', hconnection', hconnection', trivial⟩
  · intro o
    rw [liveAfter_append, hafter, Finset.mem_insert, h.objects o, hrequests]
    constructor
    · rintro (rfl | rfl | rfl | ⟨request, hmem, rfl⟩)
      · exact Or.inr (Or.inr ⟨_, List.mem_cons_self, rfl⟩)
      · exact Or.inl rfl
      · exact Or.inr (Or.inl rfl)
      · -- an older request with this id is replaced by the new one
        by_cases hid : request.id = id
        · exact Or.inr (Or.inr ⟨_, List.mem_cons_self, by rw [hid]⟩)
        · refine Or.inr (Or.inr ⟨request, List.mem_cons_of_mem _ ?_, rfl⟩)
          exact List.mem_filter.mpr ⟨hmem, by simpa using hid⟩
    · rintro (rfl | rfl | ⟨request, hmem, rfl⟩)
      · exact Or.inr (Or.inl rfl)
      · exact Or.inr (Or.inr (Or.inl rfl))
      · rcases List.mem_cons.mp hmem with rfl | hmem
        · exact Or.inl rfl
        · exact Or.inr (Or.inr (Or.inr ⟨request, (List.mem_filter.mp hmem).1, rfl⟩))
  · rw [hrequests]
    show (id :: (c.requests.filter (·.id ≠ id)).map (·.id)).Nodup
    refine List.nodup_cons.mpr ⟨?_, h.nodup.sublist (List.filter_sublist.map _)⟩
    intro hmem
    obtain ⟨request, hmem, hid⟩ := List.mem_map.mp hmem
    exact absurd hid (by simpa using (List.mem_filter.mp hmem).2)
  · intro id'
    rw [List.count_append]
    by_cases hid : id' = id
    · subst hid
      rw [List.count_eq_zero_of_not_mem hfresh, Nat.zero_add]
      simp [Trace.ping]
    · have hone := h.createdOnce id'
      have hzero : (Trace.ping id).count (.create (.request id')) = 0 := by
        refine List.count_eq_zero_of_not_mem ?_
        simp [Trace.ping, hid]
      omega
  · rw [List.mem_append, not_or]
    exact ⟨h.manager, by simp [Trace.ping]⟩

/-- A trace that uses the objects of the connection, and creates and deletes nothing. -/
theorem tracked_append_use {c c' : IceConnection} {trace ops : List (Op StunObject)}
    (h : Tracked c trace) (hrequests : c'.requests = c.requests)
    (hops : ∀ op ∈ ops, ∃ o ∈ liveAfter ∅ trace, op = .use o) :
    Tracked c' (trace ++ ops) ∧ liveAfter ∅ (trace ++ ops) = liveAfter ∅ trace := by
  induction ops generalizing trace with
  | nil =>
      rw [List.append_nil]
      exact ⟨⟨h.safe, h.objects.congr hrequests, by rw [hrequests]; exact h.nodup, h.createdOnce,
        h.manager⟩, rfl⟩
  | cons op ops ih =>
      obtain ⟨o, ho, rfl⟩ := hops op List.mem_cons_self
      have hafter : liveAfter ∅ (trace ++ [.use o]) = liveAfter ∅ trace := by
        rw [liveAfter_append]
        rfl
      have hone : Tracked c (trace ++ [.use o]) := by
        refine ⟨?_, ?_, h.nodup, fun id => ?_, ?_⟩
        · rw [safe_append_iff]
          exact ⟨h.safe, ho, trivial⟩
        · rw [hafter]
          exact h.objects
        · rw [List.count_append]
          simpa using h.createdOnce id
        · simpa using h.manager
      have hrest := ih hone fun op' hop' => by
        rw [hafter]
        exact hops op' (List.mem_cons_of_mem _ hop')
      rw [List.append_assoc, hafter] at hrest
      exact hrest

/-- The deletion of one of the requests. It was alive as it is in the list, and is in the list no
more. -/
theorem tracked_deleteRequest {c c' : IceConnection} {trace : List (Op StunObject)}
    {request : StunRequest} (h : Tracked c trace) (hmem : request ∈ c.requests)
    (hrequests : c'.requests = (c.removeRequest request.id).requests) :
    Tracked c' (trace ++ Trace.deleteRequest request.id) := by
  have hmanager : .manager ∈ liveAfter ∅ trace := (h.objects _).mpr (Or.inr (Or.inl rfl))
  have hrequest : .request request.id ∈ liveAfter ∅ trace :=
    (h.objects _).mpr (Or.inr (Or.inr ⟨request, hmem, rfl⟩))
  -- the fields of `Tracked` in order: only the objects lose something
  refine ⟨?_, ?_, ?_, ?_, ?_⟩
  · rw [safe_append_iff]
    exact ⟨h.safe, safe_deleteRequest hmanager hrequest⟩
  · intro o
    rw [liveAfter_append, liveAfter_deleteRequest, Finset.mem_erase, h.objects o, hrequests]
    constructor
    · rintro ⟨hne, rfl | rfl | ⟨other, hother, rfl⟩⟩
      · exact Or.inl rfl
      · exact Or.inr (Or.inl rfl)
      · refine Or.inr (Or.inr ⟨other, List.mem_filter.mpr ⟨hother, ?_⟩, rfl⟩)
        simpa using hne
    · rintro (rfl | rfl | ⟨other, hother, rfl⟩)
      · exact ⟨StunObject.noConfusion, Or.inl rfl⟩
      · exact ⟨StunObject.noConfusion, Or.inr (Or.inl rfl)⟩
      · obtain ⟨hother, hne⟩ := List.mem_filter.mp hother
        exact ⟨by simpa using hne, Or.inr (Or.inr ⟨other, hother, rfl⟩)⟩
  · rw [hrequests]
    exact h.nodup.sublist (List.filter_sublist.map _)
  · intro id
    rw [List.count_append]
    simpa [Trace.deleteRequest] using h.createdOnce id
  · simpa [Trace.deleteRequest] using h.manager

/-! ### One response -/

/-- A tolerated error response touches its request and the connection, and frees neither. -/
theorem onConnectionRequestErrorResponse_tolerated (c : IceConnection) (id : Bytes)
    {msg : StunMessage} (h : Tolerated msg) :
    Trace.onConnectionRequestErrorResponse c id msg
      = [.use (.request id), .use .connection] := by
  unfold Trace.onConnectionRequestErrorResponse
  dsimp only
  rw [if_pos (show _ ∨ _ ∨ _ from h), List.append_nil]

/-- Any other one destroys the connection, after its last use of the request. -/
theorem onConnectionRequestErrorResponse_fatal (c : IceConnection) (id : Bytes)
    {msg : StunMessage} (h : ¬ Tolerated msg) :
    Trace.onConnectionRequestErrorResponse c id msg
      = [.use (.request id), .use .connection, .use .connection] ++ Trace.destroy c := by
  unfold Trace.onConnectionRequestErrorResponse
  dsimp only
  rw [if_neg (show ¬ (_ ∨ _ ∨ _) from h)]
  rfl

/-- A response that does not destroy the connection: its request is used and then deleted, and a
response to no request does nothing. -/
theorem tracked_checkResponse {w : World} {p : Ptr} {trace : List (Op StunObject)}
    {msg : StunMessage} {now : Int} (h : Tracked (w.heap p) trace)
    (hfatal : ¬ FatalError (w.heap p) msg) :
    Tracked ((IceConnection.checkResponse w p msg now).heap p)
      (trace ++ Trace.checkResponse (w.heap p) msg) := by
  have hmanager : .manager ∈ liveAfter ∅ trace := (h.objects _).mpr (Or.inr (Or.inl rfl))
  have hconnection : .connection ∈ liveAfter ∅ trace := (h.objects _).mpr (Or.inl rfl)
  unfold IceConnection.checkResponse Trace.checkResponse
  cases hfind : (w.heap p).findRequest msg.transactionId with
  | none =>
      refine (tracked_append_use h rfl ?_).1
      intro op hop
      exact ⟨.manager, hmanager, List.mem_singleton.mp hop⟩
  | some request =>
      have hmem : request ∈ (w.heap p).requests := List.mem_of_find?_eq_some hfind
      have hrequest : .request request.id ∈ liveAfter ∅ trace :=
        (h.objects _).mpr (Or.inr (Or.inr ⟨request, hmem, rfl⟩))
      -- the uses before the deletion, and the deletion
      have hdelete : ∀ (v : World) (ops : List (Op StunObject)),
          (v.heap p).requests = (w.heap p).requests →
          (∀ op ∈ ops, ∃ o ∈ liveAfter ∅ trace, op = .use o) →
          Tracked ((IceConnection.deleteRequest v p request.id).heap p)
            (trace ++ (.use .manager :: (.use (.request request.id) :: ops
              ++ Trace.deleteRequest request.id))) := by
        intro v ops hv hops
        have huses : ∀ op ∈ .use .manager :: .use (.request request.id) :: ops,
            ∃ o ∈ liveAfter ∅ trace, op = .use o := by
          rintro op (_ | ⟨_, _ | ⟨_, hop⟩⟩)
          · exact ⟨_, hmanager, rfl⟩
          · exact ⟨_, hrequest, rfl⟩
          · exact hops op hop
        have htracked : Tracked (w.heap p)
            (trace ++ (.use .manager :: .use (.request request.id) :: ops)) :=
          (tracked_append_use h rfl huses).1
        have hremoved : ((IceConnection.deleteRequest v p request.id).heap p).requests
            = ((w.heap p).removeRequest request.id).requests := by
          show ((v.modify p fun c => c.removeRequest request.id).heap p).requests = _
          rw [World.modify_heap_self]
          show (v.heap p).requests.filter _ = _
          rw [hv]
          rfl
        have hlast := tracked_deleteRequest htracked hmem hremoved
        rw [List.append_assoc] at hlast
        exact hlast
      dsimp only
      by_cases hsuccess : (msg.type.toNat : Int) = getStunSuccessResponse request.type
      · rw [if_pos hsuccess, if_pos hsuccess]
        refine hdelete _ _ ?_ ?_
        · exact congrArg PingState.requests
            (pingState_receivedPingResponse w p now (request.elapsed now))
        · rintro op (_ | ⟨_, _ | ⟨_, _ | ⟨_, hop⟩⟩⟩)
          · exact ⟨_, hrequest, rfl⟩
          · exact ⟨_, hrequest, rfl⟩
          · exact ⟨_, hconnection, rfl⟩
          · cases hop
      · rw [if_neg hsuccess, if_neg hsuccess]
        by_cases herror : (msg.type.toNat : Int) = getStunErrorResponse request.type
        · have htolerated : Tolerated msg := by
            by_contra hnot
            exact hfatal ⟨request, hfind, herror, hnot⟩
          rw [if_pos herror, if_pos herror]
          have hsame : IceConnection.onConnectionRequestErrorResponse w p msg now = w :=
            if_pos htolerated
          rw [hsame, onConnectionRequestErrorResponse_tolerated _ _ htolerated]
          refine hdelete _ _ rfl ?_
          rintro op (_ | ⟨_, _ | ⟨_, _ | ⟨_, hop⟩⟩⟩)
          · exact ⟨_, hrequest, rfl⟩
          · exact ⟨_, hrequest, rfl⟩
          · exact ⟨_, hconnection, rfl⟩
          · cases hop
        · rw [if_neg herror, if_neg herror]
          exact hdelete _ _ rfl fun op hop => nomatch hop

/-- A response that destroys the connection. The request is gone when `check_response` comes
to delete it. -/
theorem not_safe_checkResponse {c : IceConnection} {trace : List (Op StunObject)}
    {msg : StunMessage} (h : Tracked c trace) (hfatal : FatalError c msg) :
    ¬ Safe ∅ (trace ++ Trace.checkResponse c msg) := by
  obtain ⟨request, hfind, herror, hcode⟩ := hfatal
  have hmem : request ∈ c.requests := List.mem_of_find?_eq_some hfind
  have hmanager : .manager ∈ liveAfter ∅ trace := (h.objects _).mpr (Or.inr (Or.inl rfl))
  have hconnection : .connection ∈ liveAfter ∅ trace := (h.objects _).mpr (Or.inl rfl)
  have hrequest : .request request.id ∈ liveAfter ∅ trace :=
    (h.objects _).mpr (Or.inr (Or.inr ⟨request, hmem, rfl⟩))
  let uses : List (Op StunObject) :=
    [.use .manager, .use (.request request.id), .use (.request request.id),
      .use (.request request.id), .use .connection, .use .connection]
  have hsplit : Trace.checkResponse c msg
      = uses ++ (Trace.destroy c ++ Trace.deleteRequest request.id) := by
    simp only [Trace.checkResponse, hfind, if_neg (errorResponse_ne_successResponse herror),
      if_pos herror, onConnectionRequestErrorResponse_fatal c request.id hcode]
    simp [uses]
  have huses : ∀ op ∈ uses, ∃ o ∈ liveAfter ∅ trace, op = .use o := by
    simp [uses, hmanager, hconnection, hrequest]
  have htracked : Tracked c (trace ++ uses) := (tracked_append_use h rfl huses).1
  obtain ⟨-, hnone⟩ := safe_destroy htracked.objects htracked.nodup
  rw [hsplit, ← List.append_assoc, ← List.append_assoc, safe_append_iff, liveAfter_append, hnone]
  exact fun hsafe => Finset.notMem_empty _ hsafe.2.1

/-! ### The destruction -/

/-- The trace of a connection that is destroyed in the end. By the ledger each request that was
created is deleted as often, which is once. -/
theorem Tracked.freed {c : IceConnection} {trace : List (Op StunObject)} (h : Tracked c trace) :
    Freed (trace ++ Trace.destroy c) := by
  obtain ⟨hsafe, hnone⟩ := safe_destroy h.objects h.nodup
  have hcreate : ∀ id, (Trace.destroy c).count (.create (.request id)) = 0 := by
    intro id
    refine List.count_eq_zero_of_not_mem ?_
    simp [Trace.destroy, Trace.deleteConnection, Trace.deleteRequests, Trace.deleteRequest]
  have hall : Safe ∅ (trace ++ Trace.destroy c) := (safe_append_iff _ _).mpr ⟨h.safe, hsafe⟩
  have hgone : liveAfter ∅ (trace ++ Trace.destroy c) = ∅ := by rw [liveAfter_append, hnone]
  have hone : ∀ id, .create (.request id) ∈ trace ++ Trace.destroy c →
      (trace ++ Trace.destroy c).count (.create (.request id)) = 1 := by
    intro id hmem
    have hpos := List.count_pos_iff.mpr hmem
    have hle := h.createdOnce id
    have hzero := hcreate id
    rw [List.count_append] at hpos ⊢
    omega
  have honce : ∀ id, .create (.request id) ∈ trace ++ Trace.destroy c →
      (trace ++ Trace.destroy c).count (.delete (.request id)) = 1 := by
    intro id hmem
    refine count_delete_eq_one hall (Finset.notMem_empty _) (hone id hmem) ?_
    rw [hgone]
    exact Finset.notMem_empty _
  refine ⟨hall, honce, ?_⟩
  -- what comes before the manager's deletion is all but the last two operations
  intro earlier later heq id hmem
  let front := trace ++ .use .connection :: (Trace.deleteRequests c.requests ++ [.use .manager])
  have hfront : trace ++ Trace.destroy c
      = front ++ .delete .manager :: [.delete .connection] := by
    simp [front, Trace.destroy, Trace.deleteConnection]
  have hnot : .delete .manager ∉ front := by
    simp [front, h.manager, Trace.deleteRequests, Trace.deleteRequest]
  have hcount := honce id hmem
  rw [hfront] at heq hcount
  rw [← ((List.append_cons_inj_of_notMem hnot (by simp)).mp heq).1, ← List.count_pos_iff]
  rw [List.count_append] at hcount
  have htail : List.count (.delete (.request id))
      [Op.delete StunObject.manager, .delete .connection] = 0 :=
    List.count_eq_zero_of_not_mem (by simp)
  omega

/-! ### Runs -/

section

variable {digest : MessageDigest} {p : Ptr}

/-- A ping destroys no connection. -/
theorem ping_live (w : World) (now : Int) (id : Bytes) :
    (IceConnection.ping digest w p now id).live = w.live :=
  (samePlaces_ping w p now digest id).live

/-- It leaves one more request. -/
theorem ping_requests (w : World) (now : Int) (id : Bytes) :
    ((IceConnection.ping digest w p now id).heap p).requests
      = ((w.heap p).insertRequest ⟨id, stunBindingRequest, now⟩).requests := by
  show ((World.send _ _ _).heap p).requests = _
  rw [send_heap]
  show ((w.modify p fun c => c.notePing id now).heap p).requests = _
  rw [World.modify_heap_self]
  rfl

/-- A response that is not fatal leaves the connection alive. -/
theorem checkResponse_live {w : World} {msg : StunMessage} {now : Int}
    (h : ¬ FatalError (w.heap p) msg) :
    (IceConnection.checkResponse w p msg now).live = w.live := by
  unfold IceConnection.checkResponse
  cases hfind : (w.heap p).findRequest msg.transactionId with
  | none => rfl
  | some request =>
      dsimp only
      split
      · exact (samePlaces_receivedPingResponse w p now _).live
      · split
        · rename_i herror
          have htolerated : Tolerated msg := by
            by_contra hnot
            exact h ⟨request, hfind, herror, hnot⟩
          have hsame : IceConnection.onConnectionRequestErrorResponse w p msg now = w :=
            if_pos htolerated
          rw [hsame]
          rfl
        · rfl

/-- A response creates nothing. -/
theorem create_notMem_checkResponse (c : IceConnection) (msg : StunMessage) (id : Bytes) :
    .create (.request id) ∉ Trace.checkResponse c msg := by
  have hdelete : ∀ id', .create (.request id) ∉ Trace.deleteRequest id' := by
    intro id'
    simp [Trace.deleteRequest]
  have hdestroy : .create (.request id) ∉ Trace.destroy c := by
    simp [Trace.destroy, Trace.deleteConnection, Trace.deleteRequests, hdelete]
  unfold Trace.checkResponse Trace.onConnectionRequestErrorResponse
    Trace.onConnectionRequestResponse
  cases c.findRequest msg.transactionId with
  | none => simp
  | some request =>
      dsimp only
      split_ifs <;> simp [hdelete, hdestroy]

/-- What was traced stays traced. -/
theorem exists_trace_append (events : List RequestEvent) (s : TracedRun) :
    ∃ ops, destroyedTrace p (run (traceStep digest p) s events) = s.trace ++ ops := by
  induction events generalizing s with
  | nil =>
      unfold destroyedTrace
      split
      · exact ⟨_, rfl⟩
      · exact ⟨[], (List.append_nil _).symm⟩
  | cons e events ih =>
      obtain ⟨ops, hops⟩ := ih (traceStep digest p s e)
      rw [run_cons, hops]
      unfold traceStep
      split
      · cases e with
        | ping now id => exact ⟨_, List.append_assoc _ _ _⟩
        | response msg now => exact ⟨_, List.append_assoc _ _ _⟩
      · exact ⟨ops, rfl⟩

/-- No request was created yet for the pings to come, and their transaction ids are
distinct. -/
structure Unsent (trace : List (Op StunObject)) (events : List RequestEvent) : Prop where
  nodup : (events.filterMap RequestEvent.pingId).Nodup
  fresh : ∀ id ∈ events.filterMap RequestEvent.pingId, .create (.request id) ∉ trace

/-- From a tracked connection, the run frees every request exactly when no response
destroys the connection. -/
theorem freed_iff_steps (events : List RequestEvent) {s : TracedRun} (hlive : p ∈ s.world.live)
    (h : Tracked (s.world.heap p) s.trace) (hunsent : Unsent s.trace events) :
    Freed (destroyedTrace p (run (traceStep digest p) s events)) ↔
      Steps (traceStep digest p) (NotFatal p) s events := by
  -- on the events: the connection stays alive as long as none of them is fatal
  induction events generalizing s with
  | nil =>
      have hfreed : Freed (destroyedTrace p s) := by
        rw [destroyedTrace, if_pos hlive]
        exact h.freed
      exact iff_of_true hfreed trivial
  | cons e events ih =>
      rw [run_cons]
      cases e with
      | ping now id =>
          have hstep : traceStep digest p s (.ping now id)
              = ⟨IceConnection.ping digest s.world p now id, s.trace ++ Trace.ping id⟩ :=
            if_pos hlive
          obtain ⟨hid, hnodup⟩ := List.nodup_cons.mp hunsent.nodup
          have hfresh := hunsent.fresh id List.mem_cons_self
          have hrest := ih (s := traceStep digest p s (.ping now id))
            (by rw [hstep, ping_live]; exact hlive)
            (by rw [hstep]; exact tracked_ping h hfresh (ping_requests s.world now id)) (by
              rw [hstep]
              refine ⟨hnodup, fun id' hid' hmem => ?_⟩
              rcases List.mem_append.mp hmem with hmem | hmem
              · exact hunsent.fresh id' (List.mem_cons_of_mem _ hid') hmem
              · have heq : id' = id := by simpa [Trace.ping] using hmem
                exact hid (heq ▸ hid'))
          rw [hrest]
          exact ⟨fun hsteps => ⟨trivial, hsteps⟩, fun hsteps => hsteps.2⟩
      | response msg now =>
          have hstep : traceStep digest p s (.response msg now)
              = ⟨IceConnection.checkResponse s.world p msg now,
                s.trace ++ Trace.checkResponse (s.world.heap p) msg⟩ :=
            if_pos hlive
          by_cases hfatal : FatalError (s.world.heap p) msg
          · -- what comes behind cannot repair a trace that is not safe
            refine iff_of_false ?_ fun hsteps => hsteps.1 hlive hfatal
            intro hfreed
            obtain ⟨ops, hops⟩ : ∃ ops, destroyedTrace p (run (traceStep digest p)
                (traceStep digest p s (.response msg now)) events)
                = (traceStep digest p s (.response msg now)).trace ++ ops :=
              exists_trace_append events _
            have hsafe := hfreed.safe
            rw [hops, safe_append_iff, hstep] at hsafe
            exact not_safe_checkResponse h hfatal hsafe.1
          · have hrest := ih (s := traceStep digest p s (.response msg now))
              (by rw [hstep, checkResponse_live hfatal]; exact hlive)
              (by rw [hstep]; exact tracked_checkResponse h hfatal) (by
                rw [hstep]
                refine ⟨hunsent.nodup, fun id hid hmem => ?_⟩
                rcases List.mem_append.mp hmem with hmem | hmem
                · exact hunsent.fresh id hid hmem
                · exact create_notMem_checkResponse _ msg id hmem)
            rw [hrest]
            exact ⟨fun hsteps => ⟨fun _ => hfatal, hsteps⟩, fun hsteps => hsteps.2⟩

end

/-- For every run of a new connection whose pings have distinct transaction ids, and its
destruction after it: every request is deleted exactly once, before its manager, and nothing
is used after its deletion, if and only if no response destroys the connection. -/
theorem freed_iff (digest : MessageDigest) (p : Ptr) (w : World) (hlive : p ∈ w.live) (port : Nat)
    (remoteCandidate : Candidate) (hnew : w.heap p = { port, remoteCandidate })
    (events : List RequestEvent) (hids : (events.filterMap RequestEvent.pingId).Nodup) :
    Freed (destroyedTrace p (run (traceStep digest p) (TracedRun.start w) events)) ↔
      Steps (traceStep digest p) (NotFatal p) (TracedRun.start w) events := by
  have hrequests : (w.heap p).requests = [] := by rw [hnew]
  refine freed_iff_steps events hlive ?_ ⟨hids, fun id _ hmem => ?_⟩
  · have hsafe : Safe ∅ [Op.create StunObject.connection, .create .manager] := by decide
    refine ⟨hsafe, ?_, ?_, fun id => ?_, ?_⟩
    · intro o
      show o ∈ insert StunObject.manager (insert StunObject.connection ∅) ↔ _
      rw [show ((TracedRun.start w).world.heap p).requests = [] from hrequests]
      simp [or_comm]
    · rw [show ((TracedRun.start w).world.heap p).requests = [] from hrequests]
      exact List.nodup_nil
    · show [Op.create StunObject.connection, .create .manager].count (.create (.request id)) ≤ 1
      simp
    · show .delete .manager ∉ [Op.create StunObject.connection, .create .manager]
      simp
  · have hnot : .create (.request id) ∉ [Op.create StunObject.connection, .create .manager] := by
      simp
    exact hnot hmem

/-- A success response destroys nothing. -/
theorem not_fatalError_of_success (c : IceConnection) {msg : StunMessage}
    (h : msg.type = stunBindingResponse) : ¬ FatalError c msg := by
  rintro ⟨request, -, herror, -⟩
  rw [h, getStunErrorResponse] at herror
  split at herror
  · have htype : stunBindingResponse = request.type ||| 0x0110 :=
      UInt16.toNat_inj.mp (Int.ofNat_inj.mp herror)
    -- an error response has bit 4 set
    have hbit := congrArg (fun x => x.toBitVec.getLsbD 4) htype
    simp [stunBindingResponse] at hbit
  · cases herror

/-- A response to the ping with an id. -/
def responseTo (type : UInt16) (id : Bytes) : StunMessage := { type, transactionId := id }

/-- Two pings. The response to the second one comes twice, and one to no ping at all. -/
def answeredPings : List RequestEvent :=
  [.ping 1 (equalId 1), .ping 2 (equalId 2), .response (responseTo stunBindingResponse (equalId 2)) 3,
    .response (responseTo stunBindingResponse (equalId 2)) 4,
    .response (responseTo stunBindingResponse (equalId 3)) 5]

/-- Nothing in this run is fatal, so every request is freed exactly once. -/
theorem answeredPings_freed :
    Freed (destroyedTrace 0 (run (traceStep (fixedDigest (Vector.replicate 20 0) 0) 0)
      (TracedRun.start oneConnection) answeredPings)) :=
  (freed_iff _ 0 oneConnection List.mem_cons_self 0 noCandidate rfl answeredPings (by decide)).mpr
    ⟨trivial, trivial, fun _ => not_fatalError_of_success _ rfl,
      fun _ => not_fatalError_of_success _ rfl, fun _ => not_fatalError_of_success _ rfl, trivial⟩

/-- A ping that gets an error response without a code. -/
def refusedPing : List RequestEvent :=
  [.ping 1 (equalId 1), .response (responseTo stunBindingErrorResponse (equalId 1)) 2]

/-- The request is used after the connection's destructor has deleted it. -/
theorem refusedPing_not_freed :
    ¬ Freed (destroyedTrace 0 (run (traceStep (fixedDigest (Vector.replicate 20 0) 0) 0)
      (TracedRun.start oneConnection) refusedPing)) := by
  have hunsafe : ¬ Safe ∅ (destroyedTrace 0 (run (traceStep
      (fixedDigest (Vector.replicate 20 0) 0) 0) (TracedRun.start oneConnection) refusedPing)) := by
    decide +kernel
  exact fun h => hunsafe h.safe

end Xrtc.Proofs.Ice
