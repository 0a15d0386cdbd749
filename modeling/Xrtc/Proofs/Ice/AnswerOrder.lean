import Mathlib.Data.Multiset.MapFold
import Xrtc.Proofs.Ice.SelectedConnection

/-!
# `Xrtc.Proofs.Ice.AnswerOrder`: the answer among the first binding requests

The answer brings the remote credentials (`set_remote_ice_params`), and the binding
requests bring the connections, in any order. A connection gets its password in one
of two places. `_on_unknown_address` copies the one that is known, whatever the
remote ufrag. `maybe_set_remote_ice_params` fills it in later, if the ufrag is the
one of the answer.

`credentials_unknownAddress` and `credentials_setRemoteIceParams` say what each call
does to the credentials of the connections. `answerCommutes_iff` is the consequence:
the place of the answer makes no difference exactly when every request comes with
the ufrag of the answer.
-/

set_option autoImplicit false

namespace Xrtc.Proofs.Ice

open Xrtc.Lib
open Xrtc.Ice
open Xrtc.Ice.IceTransportChannel

/-! ### Credentials -/

/-- The remote address, username and password of a connection. -/
def credentialsOf (w : Core) (p : Ptr) : SocketAddress × Bytes × Bytes :=
  let remote := (w.heap p).remoteCandidate
  (remote.address, remote.username, remote.password)

/-- The credentials of the connections of a channel. -/
def credentials (w : Core) : Multiset (SocketAddress × Bytes × Bytes) :=
  (w.controller.connections : Multiset Ptr).map (credentialsOf w)

/-- The connections of the controller exist, and no two of them are the same. -/
structure Owned (w : Core) : Prop where
  live : ∀ p ∈ w.controller.connections, p ∈ w.live
  nodup : w.controller.connections.Nodup

/-- The credentials of the connections do not depend on their order. -/
theorem credentials_congr {v w : Core} (hconn : v.controller.connections.Perm w.controller.connections)
    (hremote : ∀ p ∈ w.controller.connections,
      (v.heap p).remoteCandidate = (w.heap p).remoteCandidate) :
    credentials v = credentials w := by
  unfold credentials
  rw [Multiset.coe_eq_coe.mpr hconn]
  refine Multiset.map_congr rfl fun p hp => ?_
  unfold credentialsOf
  rw [hremote p hp]

/-- Sorting changes no credentials. -/
theorem credentials_sort (w : World) (now : Int) :
    credentials (sortConnectionsAndUpdateState w now).toCore = credentials w.toCore := by
  refine credentials_congr ?_ fun p _ => ?_
  · rw [sort_controller, switchedWorld_connections]
    exact List.perm_insertionSort _ _
  · rw [sort_heap]
    obtain ⟨b, hb⟩ := switchedWorld_heap w p
    rw [hb]

/-- Sorting keeps every connection with its channel. -/
theorem owned_sort {w : World} (h : Owned w.toCore) (now : Int) :
    Owned (sortConnectionsAndUpdateState w now).toCore := by
  constructor
  · intro p hp
    rw [sort_controller, switchedWorld_connections, mem_sortConnections] at hp
    rw [sort_live, switchedWorld_live]
    exact h.live p hp
  · rw [sort_controller, switchedWorld_connections]
    exact (List.perm_insertionSort _ _).nodup_iff.mpr h.nodup

/-- It does not touch the parameters of the channel. -/
theorem sort_remoteIceParams (w : World) (now : Int) :
    (sortConnectionsAndUpdateState w now).channel.remoteIceParams = w.channel.remoteIceParams := by
  have hswitch : (switchedWorld w).channel.remoteIceParams = w.channel.remoteIceParams := by
    unfold switchedWorld maybeSwitchSelectedConnection
    split
    · rfl
    · unfold switchSelectedConnection
      cases (sortedWorld w).channel.selectedConnection <;> rfl
  show (sortAndUpdate w now).channel.remoteIceParams = _
  rw [sortAndUpdate_eq, maybeStartPinging_eq, ← hswitch]
  show (updateState (switchedWorld w)).channel.remoteIceParams = _
  rw [updateState_toCore]
  rfl

/-! ### The two calls -/

section

variable (digest : MessageDigest) (allocator : Allocator)

/-- A binding request with a priority, from an address without a connection. -/
structure Request where
  port : Nat
  address : SocketAddress
  msg : StunMessage
  remoteUfrag : Bytes
  now : Int
  priority : (msg.getUInt32 stunAttrPriority).isSome

def Request.event (r : Request) : Event :=
  .unknownAddress r.port r.address r.msg r.remoteUfrag r.now

/-- The new connection of a request, before the response and the sort. -/
def connected (w : World) (r : Request) (attr : StunAttribute) : World :=
  addConnection
    (createConnection allocator w r.port
      { address := r.address
        priority := attr.bits
        username := r.remoteUfrag
        password := w.channel.remoteIceParams.icePwd })
    (allocator.pick w.toCore)

/-- A request adds its connection, answers, and sorts. -/
theorem step_request (w : World) (r : Request) :
    ∃ attr data address,
      step digest allocator w r.event
        = sortConnectionsAndUpdateState ((connected allocator w r attr).send address data) r.now := by
  obtain ⟨attr, hattr⟩ := Option.isSome_iff_exists.mp r.priority
  unfold step Request.event
  dsimp only
  unfold onUnknownAddress IceConnection.handleStunBindingRequest
  rw [hattr]
  dsimp only
  cases r.msg.getByteString stunAttrUsername with
  | none => exact ⟨attr, none, r.address, rfl⟩
  | some _ => exact ⟨attr, _, _, rfl⟩

/-- The new connection has the ufrag of the request and the password known so far. -/
theorem credentials_connected {w : World} (h : Owned w.toCore) (r : Request)
    (attr : StunAttribute) :
    credentials (connected allocator w r attr).toCore
      = (r.address, r.remoteUfrag, w.channel.remoteIceParams.icePwd) ::ₘ credentials w.toCore := by
  have hfresh := allocator.pick_not_mem w.toCore
  show Multiset.map _ ((w.controller.connections ++ [allocator.pick w.toCore] : List Ptr)
    : Multiset Ptr) = _
  rw [Multiset.coe_eq_coe.mpr (List.perm_append_singleton _ _), ← Multiset.cons_coe,
    Multiset.map_cons]
  refine congrArg₂ Multiset.cons ?_ (Multiset.map_congr rfl fun p hp => ?_)
  · unfold credentialsOf connected addConnection createConnection World.push
    dsimp only
    rw [Function.update_self]
  · have hne : p ≠ allocator.pick w.toCore := by
      rintro rfl
      exact hfresh (h.live _ hp)
    unfold credentialsOf connected addConnection createConnection World.push
    dsimp only
    rw [Function.update_of_ne hne]

/-- The new connection belongs to the channel like the others. -/
theorem owned_connected {w : World} (h : Owned w.toCore) (r : Request) (attr : StunAttribute) :
    Owned (connected allocator w r attr).toCore := by
  have hfresh := allocator.pick_not_mem w.toCore
  constructor
  · intro p hp
    rcases List.mem_append.mp hp with hp | hp
    · exact List.mem_cons_of_mem _ (h.live p hp)
    · rw [List.mem_singleton] at hp
      subst hp
      exact List.mem_cons_self
  · refine List.Nodup.append h.nodup (List.nodup_singleton _) ?_
    intro p hp hp'
    rw [List.mem_singleton] at hp'
    subst hp'
    exact hfresh (h.live _ hp)

/-- A request adds its connection, with the password known so far. -/
theorem credentials_unknownAddress {w : World} (h : Owned w.toCore) (r : Request) :
    let w' := step digest allocator w r.event
    Owned w'.toCore ∧ w'.channel.remoteIceParams = w.channel.remoteIceParams ∧
      credentials w'.toCore
        = (r.address, r.remoteUfrag, w.channel.remoteIceParams.icePwd) ::ₘ credentials w.toCore := by
  obtain ⟨attr, data, address, hstep⟩ := step_request digest allocator w r
  intro w'
  have hcore : ((connected allocator w r attr).send address data).toCore
      = (connected allocator w r attr).toCore := World.send_toCore _ _ _
  show Owned (step digest allocator w r.event).toCore ∧ _ ∧ _
  show _ ∧ (step digest allocator w r.event).channel.remoteIceParams = _ ∧
    credentials (step digest allocator w r.event).toCore = _
  rw [hstep]
  refine ⟨owned_sort (by rw [hcore]; exact owned_connected allocator h r attr) _, ?_, ?_⟩
  · rw [sort_remoteIceParams, hcore]
    rfl
  · rw [credentials_sort, hcore]
    exact credentials_connected allocator h r attr

/-- What the answer does to credentials. -/
def withAnswer (params : IceParameters) (c : SocketAddress × Bytes × Bytes) :
    SocketAddress × Bytes × Bytes :=
  if c.2.1 = params.iceUfrag ∧ c.2.2 = [] then (c.1, c.2.1, params.icePwd) else c

/-- The loop over the connections changes every one of them once. -/
theorem foldl_modify (f : IceConnection → IceConnection) (conns : List Ptr) (w : World)
    (hnodup : conns.Nodup) :
    let w' := conns.foldl (fun w conn => w.modify conn f) w
    w'.live = w.live ∧ w'.controller = w.controller ∧ w'.channel = w.channel ∧
      ∀ p, w'.heap p = if p ∈ conns then f (w.heap p) else w.heap p := by
  induction conns generalizing w with
  | nil => exact ⟨rfl, rfl, rfl, fun p => rfl⟩
  | cons conn conns ih =>
      obtain ⟨hnot, hnodup⟩ := List.nodup_cons.mp hnodup
      obtain ⟨hlive, hcontroller, hchannel, hheap⟩ := ih (w.modify conn f) hnodup
      refine ⟨hlive, hcontroller, hchannel, fun p => ?_⟩
      show (conns.foldl (fun w conn => w.modify conn f) (w.modify conn f)).heap p = _
      rw [hheap]
      by_cases hp : p = conn
      · subst hp
        rw [if_neg hnot, World.modify_heap_self, if_pos List.mem_cons_self]
      · rw [World.modify_heap_of_ne _ _ hp]
        simp only [List.mem_cons, hp, false_or]

/-- The answer gives its credentials to all connections that have none, whenever it comes. -/
theorem credentials_setRemoteIceParams {w : World} (h : Owned w.toCore) (params : IceParameters)
    (now : Int) :
    let w' := step digest allocator w (.setRemoteIceParams params now)
    Owned w'.toCore ∧ w'.channel.remoteIceParams = params ∧
      credentials w'.toCore = (credentials w.toCore).map (withAnswer params) := by
  intro w'
  let v : World := { w with channel := { w.channel with remoteIceParams := params } }
  obtain ⟨hlive, hcontroller, hchannel, hheap⟩ :=
    foldl_modify (fun c => c.maybeSetRemoteIceParams params) v.controller.connections v h.nodup
  -- the loop gives the parameters to every connection once, and then sorts
  generalize hu : v.controller.connections.foldl
    (fun w conn => w.modify conn fun c => c.maybeSetRemoteIceParams params) v = u
    at hlive hcontroller hchannel hheap
  have hw' : w' = sortConnectionsAndUpdateState u now := by
    rw [← hu]
    rfl
  have hconn : u.controller.connections = w.controller.connections := by rw [hcontroller]
  have howned : Owned u.toCore := by
    refine ⟨fun p hp => ?_, by rw [hconn]; exact h.nodup⟩
    rw [hlive]
    rw [hconn] at hp
    exact h.live p hp
  rw [hw']
  refine ⟨owned_sort howned now, ?_, ?_⟩
  · rw [sort_remoteIceParams, hchannel]
  · rw [credentials_sort]
    unfold credentials
    rw [hconn, Multiset.map_map]
    refine Multiset.map_congr rfl fun p hp => ?_
    show credentialsOf u.toCore p = withAnswer params (credentialsOf w.toCore p)
    unfold credentialsOf withAnswer
    dsimp only
    rw [hheap p, if_pos (show p ∈ v.controller.connections from hp)]
    unfold IceConnection.maybeSetRemoteIceParams
    split_ifs <;> rfl

/-! ### The order -/

/-- Requests in a row add their connections, by induction on them. -/
theorem run_requests (rs : List Request) {w : World} (h : Owned w.toCore) :
    let w' := run (step digest allocator) w (rs.map Request.event)
    Owned w'.toCore ∧ w'.channel.remoteIceParams = w.channel.remoteIceParams ∧
      credentials w'.toCore
        = (rs.map fun r => (r.address, r.remoteUfrag, w.channel.remoteIceParams.icePwd) :
            Multiset (SocketAddress × Bytes × Bytes)) + credentials w.toCore := by
  induction rs generalizing w with
  | nil => exact ⟨h, rfl, by simp⟩
  | cons r rs ih =>
      obtain ⟨howned, hparams, hcreds⟩ := credentials_unknownAddress digest allocator h r
      obtain ⟨howned', hparams', hcreds'⟩ := ih howned
      refine ⟨howned', hparams'.trans hparams, ?_⟩
      show credentials (run (step digest allocator) (step digest allocator w r.event)
        (rs.map Request.event)).toCore = _
      rw [hcreds', hcreds, hparams, List.map_cons, ← Multiset.cons_coe, Multiset.add_cons,
        Multiset.cons_add]

/-- The end of a run of requests with the answer after the first `i` of them. -/
def answeredAfter (w : World) (params : IceParameters) (rs : List Request) (i : Nat) (now : Int) :
    World :=
  run (step digest allocator) w
    ((rs.take i).map Request.event ++ .setRemoteIceParams params now ::
      (rs.drop i).map Request.event)

/-- A channel before its first connection and before the answer. -/
structure Unconnected (w : Core) : Prop where
  connections : w.controller.connections = []
  remoteIceParams : w.channel.remoteIceParams = {}

/-- The place of the answer in a sequence of requests makes no difference to the
credentials of the connections at the end, and a connection has the password of the
answer exactly if it has the ufrag of the answer. -/
def AnswerCommutes (w : World) (params : IceParameters) (rs : List Request) : Prop :=
  ∀ i now,
    (∀ j now', credentials (answeredAfter digest allocator w params rs i now).toCore
      = credentials (answeredAfter digest allocator w params rs j now').toCore) ∧
    ∀ c ∈ credentials (answeredAfter digest allocator w params rs i now).toCore,
      c.2.2 = params.icePwd ↔ c.2.1 = params.iceUfrag

/-- The connections at the end: those of the requests before the answer have the password
if their ufrag is the one of the answer, and those of the others have it anyway. -/
theorem credentials_answeredAfter {w : World} (h : Unconnected w.toCore) (params : IceParameters)
    (rs : List Request) (i : Nat) (now : Int) :
    credentials (answeredAfter digest allocator w params rs i now).toCore
      = ((rs.drop i).map fun r => (r.address, r.remoteUfrag, params.icePwd) :
          Multiset (SocketAddress × Bytes × Bytes))
        + ((rs.take i).map fun r => withAnswer params (r.address, r.remoteUfrag, []) :
          Multiset (SocketAddress × Bytes × Bytes)) := by
  have howned : Owned w.toCore := by
    constructor
    · rw [h.connections]
      exact fun p hp => absurd hp List.not_mem_nil
    · rw [h.connections]
      exact List.nodup_nil
  have hnone : credentials w.toCore = 0 := by
    unfold credentials
    rw [h.connections]
    rfl
  obtain ⟨howned₁, hparams₁, hcreds₁⟩ := run_requests digest allocator (rs.take i) howned
  obtain ⟨howned₂, hparams₂, hcreds₂⟩ :=
    credentials_setRemoteIceParams digest allocator howned₁ params now
  obtain ⟨-, -, hcreds₃⟩ := run_requests digest allocator (rs.drop i) howned₂
  unfold answeredAfter
  rw [run_append, run_cons, hcreds₃, hparams₂, hcreds₂, hcreds₁, hnone, h.remoteIceParams,
    Multiset.add_zero, Multiset.map_coe, List.map_map]
  rfl

/-- The answer can come at any place exactly if every request has the ufrag of the answer. A
connection with another ufrag gets the password of the answer only if the answer was there before
it. -/
theorem answerCommutes_iff {w : World} (h : Unconnected w.toCore) (params : IceParameters)
    (rs : List Request) :
    AnswerCommutes digest allocator w params rs
      ↔ ∀ r ∈ rs, r.remoteUfrag = params.iceUfrag := by
  constructor
  · -- with the answer in front, every connection has its password
    intro hcommutes r hr
    have hall := (hcommutes 0 0).2
    rw [credentials_answeredAfter digest allocator h] at hall
    refine (hall (r.address, r.remoteUfrag, params.icePwd) ?_).mp rfl
    rw [List.take_zero, List.map_nil, Multiset.coe_nil, Multiset.add_zero, Multiset.mem_coe]
    exact List.mem_map.mpr ⟨r, hr, rfl⟩
  · intro hufrag
    have hcreds : ∀ i now, credentials (answeredAfter digest allocator w params rs i now).toCore
        = (rs.map fun r => (r.address, params.iceUfrag, params.icePwd) :
            Multiset (SocketAddress × Bytes × Bytes)) := by
      intro i now
      have hdrop : (rs.drop i).map (fun r => (r.address, r.remoteUfrag, params.icePwd))
          = (rs.drop i).map fun r => (r.address, params.iceUfrag, params.icePwd) := by
        refine List.map_congr_left fun r hr => ?_
        rw [hufrag r (List.mem_of_mem_drop hr)]
      have htake : (rs.take i).map (fun r => withAnswer params (r.address, r.remoteUfrag, []))
          = (rs.take i).map fun r => (r.address, params.iceUfrag, params.icePwd) := by
        refine List.map_congr_left fun r hr => ?_
        rw [hufrag r (List.mem_of_mem_take hr)]
        exact if_pos ⟨rfl, rfl⟩
      rw [credentials_answeredAfter digest allocator h, hdrop, htake, Multiset.coe_add,
        ← List.map_append]
      refine Multiset.coe_eq_coe.mpr (List.Perm.map _ ?_)
      exact List.perm_append_comm.trans (List.Perm.of_eq (List.take_append_drop i rs))
    intro i now
    refine ⟨fun j now' => by rw [hcreds, hcreds], fun c hc => ?_⟩
    rw [hcreds, Multiset.mem_coe, List.mem_map] at hc
    obtain ⟨r, -, rfl⟩ := hc
    exact ⟨fun _ => rfl, fun _ => rfl⟩

end

/-- A new channel has no connections. -/
theorem freshChannel_unconnected : Unconnected freshChannel.toCore := ⟨rfl, rfl⟩

/-- A request with a given ufrag, from a peer with a given port. -/
def requestFrom (port : UInt16) (remoteUfrag : Bytes) : Request :=
  ⟨0, ⟨.v4 1, port⟩, bindingRequest, remoteUfrag, 900, rfl⟩

/-- Two requests with the ufrag of the answer commute with it. -/
theorem sameUfrag_commutes :
    Unconnected freshChannel.toCore ∧
      AnswerCommutes (fixedDigest (Vector.replicate 20 0) 0) nextFree freshChannel
        ⟨ascii "r", ascii "p"⟩ [requestFrom 1 (ascii "r"), requestFrom 2 (ascii "r")] :=
  ⟨freshChannel_unconnected,
    (answerCommutes_iff _ _ freshChannel_unconnected _ _).mpr (by
      intro r hr
      rcases List.mem_cons.mp hr with rfl | hr
      · rfl
      · rw [List.mem_singleton.mp hr]
        rfl)⟩

/-- A request with another ufrag, behind the answer, gets the password of the answer. -/
theorem otherUfrag_not_commutes :
    ¬ AnswerCommutes (fixedDigest (Vector.replicate 20 0) 0) nextFree freshChannel
      ⟨ascii "r", ascii "p"⟩ [requestFrom 1 (ascii "s")] := by
  intro h
  have hall := (h 0 0).2
  rw [credentials_answeredAfter _ _ freshChannel_unconnected] at hall
  have hmem := hall (⟨.v4 1, 1⟩, ascii "s", ascii "p")
    (Multiset.mem_add.mpr (.inl (Multiset.mem_coe.mpr List.mem_cons_self)))
  exact absurd (hmem.mp rfl) (by decide)

end Xrtc.Proofs.Ice
