import Xrtc.Lib.Frames
import Xrtc.Proofs.Pc.TransportActions

/-!
# `Xrtc.Proofs.Pc.RecordFraming`: the records of a DTLS packet

`_handle_dtls_packet` walks over the records of a packet and gives the packet to the adapter
if the last record ends where the packet does. The records are frames with a header of 13
bytes, and `completeRecords_iff` says that the walk accepts exactly their concatenations.
`completeRecordsTraced_spec` is about the same walk with its reads. What is left of the
packet is never more than there is behind the pointer, so it reads no byte that is not there
and the remainder does not wrap around.

A packet that is handed over is recorded by `on_received_packet`. What the adapter does with
it while it is called records no other one (`handedOver_onDtlsEvents`).
-/

set_option autoImplicit false

namespace Xrtc.Proofs.Pc

open Xrtc.Lib
open Xrtc.Pc
open Xrtc.Pc.DtlsTransport

/-! ### Records -/

/-- A complete record: a header of 13 bytes, whose last two bytes are the length of the body
behind it. -/
def IsRecord (r : Bytes) : Prop :=
  dtlsRecordHeaderLen ≤ r.length ∧ r.length = dtlsRecordHeaderLen + (getBE16 r 11).toNat

/-- The bytes are a concatenation of complete records. -/
def AreRecords (data : Bytes) : Prop :=
  ∃ records : List Bytes, data = records.flatten ∧ ∀ r ∈ records, IsRecord r

/-- The framing of records. -/
def recordFraming : Framing UInt8 :=
  .ofHeader dtlsRecordHeaderLen (fun s => some (dtlsRecordHeaderLen + (getBE16 s 11).toNat))
    (by decide) (fun s n h => by cases h; omega)
    (fun s rest h => by
      rw [dtlsRecordHeaderLen] at h
      rw [getBE16_append_left (by omega)])

/-- A frame of this kind is one record. -/
theorem isFrame_recordFraming {r : Bytes} : recordFraming.IsFrame r ↔ IsRecord r := by
  rw [recordFraming, Framing.isFrame_ofHeader, Option.some.injEq, IsRecord]
  omega

/-- Records behind one another are a string that the frames tile. -/
theorem areRecords_iff (data : Bytes) : AreRecords data ↔ recordFraming.Tiled data := by
  constructor
  · rintro ⟨records, hdata, hrecords⟩
    exact ⟨records, fun r hr => isFrame_recordFraming.mpr (hrecords r hr), hdata⟩
  · rintro ⟨records, hrecords, hdata⟩
    exact ⟨records, hdata, fun r hr => isFrame_recordFraming.mp (hrecords r hr)⟩

/-! ### The walk -/

/-- The check of the source accepts the empty string. -/
theorem completeRecords_nil : completeRecords [] = true := by
  rw [completeRecords]
  rfl

/-- One step of the walk is one record. The source adds up the two bytes of the length by hand,
which is the big-endian number that the frames are read with. -/
theorem completeRecords_next {data : Bytes} (hne : data ≠ []) :
    completeRecords data =
      match recordFraming.next data with
      | none => false
      | some n => completeRecords (data.drop n) := by
  have hpos := List.length_pos_iff.mpr hne
  have hnext : ∀ n, recordFraming.next data = some n ↔
      dtlsRecordHeaderLen + (getBE16 data 11).toNat = n ∧ n ≤ data.length := by
    intro n
    rw [recordFraming, Framing.next_ofHeader, Option.some.injEq]
  rw [completeRecords, if_neg (by omega)]
  -- too short for a header, too short for the body, or a record
  by_cases hheader : data.length < dtlsRecordHeaderLen
  · have hnone : recordFraming.next data = none := by
      rw [Option.eq_none_iff_forall_ne_some]
      intro n hn
      have := (hnext n).mp hn
      omega
    rw [if_pos hheader, hnone]
  · rw [if_neg hheader]
    have hlength : (getBE16 data 11).toNat
        = (data.getD 11 0).toNat * 256 + (data.getD 12 0).toNat :=
      getBE16_toNat (by rw [dtlsRecordHeaderLen] at hheader; omega)
    dsimp only
    rw [← hlength]
    by_cases hbody : (getBE16 data 11).toNat + dtlsRecordHeaderLen > data.length
    · have hnone : recordFraming.next data = none := by
        rw [Option.eq_none_iff_forall_ne_some]
        intro n hn
        have := (hnext n).mp hn
        omega
      rw [if_pos hbody, hnone]
    · rw [if_neg hbody, (hnext _).mpr ⟨rfl, by omega⟩]

/-- The walk accepts exactly the concatenations of complete records. -/
theorem completeRecords_iff (data : Bytes) : completeRecords data = true ↔ AreRecords data := by
  rw [areRecords_iff]
  by_cases hne : data = []
  · rw [hne]
    exact iff_of_true completeRecords_nil recordFraming.tiled_nil
  · rw [completeRecords_next hne]
    cases hnext : recordFraming.next data with
    | none => exact iff_of_false Bool.false_ne_true (Framing.not_tiled_of_none _ hnext hne)
    | some n =>
        have hpos := recordFraming.next_pos hnext
        have hle := recordFraming.next_le hnext
        have hrecord := recordFraming.tiled_append_iff (Framing.isFrame_take hnext) (data.drop n)
        rw [List.take_append_drop] at hrecord
        rw [hrecord, ← areRecords_iff]
        exact completeRecords_iff (data.drop n)
termination_by data.length
decreasing_by
  rw [List.length_drop]
  omega

/-- The walk with its reads, where the pointer and what is left make up the packet: it
returns the same, and reads only bytes of the packet. -/
theorem completeRecordsTraced_spec (data : Bytes) (tmpData tmpSize : Nat)
    (h : tmpData + tmpSize = data.length) :
    (completeRecordsTraced data tmpData tmpSize).value = completeRecords (data.drop tmpData) ∧
      (completeRecordsTraced data tmpData tmpSize).InBounds := by
  have hleft : (data.drop tmpData).length = tmpSize := by
    rw [List.length_drop]
    omega
  have hget : ∀ i, (data.drop tmpData).getD i 0 = data.getD (tmpData + i) 0 := by
    intro i
    rw [List.getD_eq_getElem?_getD, List.getElem?_drop, ← List.getD_eq_getElem?_getD]
  rw [completeRecordsTraced, completeRecords, hleft]
  -- the branches of the walk, one after another
  by_cases hend : tmpSize = 0
  · rw [if_pos hend, if_pos hend]
    exact ⟨rfl, Traced.inBounds_pure _⟩
  · rw [if_neg hend, if_neg hend]
    by_cases hheader : tmpSize < dtlsRecordHeaderLen
    · rw [if_pos hheader, if_pos hheader]
      exact ⟨rfl, Traced.inBounds_pure _⟩
    · rw [if_neg hheader, if_neg hheader]
      rw [dtlsRecordHeaderLen] at hheader
      simp only [Traced.value_bind, Traced.inBounds_bind, Traced.inBounds_getByte]
      rw [Traced.value_getByte, Traced.value_getByte, hget, hget]
      split
      · exact ⟨rfl, by omega, by omega, Traced.inBounds_pure _⟩
      -- a record in front: the walk goes on with what is left of the same packet
      · obtain ⟨hvalue, hbounds⟩ := completeRecordsTraced_spec data
          (tmpData + (dtlsRecordHeaderLen +
            ((data.getD (tmpData + 11) 0).toNat * 256 + (data.getD (tmpData + 12) 0).toNat)))
          (tmpSize - (dtlsRecordHeaderLen +
            ((data.getD (tmpData + 11) 0).toNat * 256 + (data.getD (tmpData + 12) 0).toNat)))
          (by omega)
        rw [List.drop_drop]
        exact ⟨hvalue, by omega, by omega, hbounds⟩
termination_by tmpSize
decreasing_by
  have hpos : 0 < dtlsRecordHeaderLen := by decide
  omega

/-! ### The handover -/

/-- The packet that an entry says was handed over. -/
def handoverOf : Entry → Option (Bytes × Bytes)
  | .receivedPacket name data => some (name, data)
  | _ => none

/-- The packets that were handed over, with the names of their transports, latest first. -/
def handedOver (c : TransportController) : List (Bytes × Bytes) := c.log.filterMap handoverOf

section

variable (ssl : SslAdapter) (c : TransportController) (name : Bytes)

/-- An entry of another kind hands nothing over. -/
theorem handedOver_push {entry : Entry} (h : handoverOf entry = none) :
    handedOver (c.push entry) = handedOver c := List.filterMap_cons_none h

/-- Nor does the update of the states. -/
theorem handedOver_updateState : handedOver c.updateState = handedOver c := by
  unfold TransportController.updateState
  dsimp only
  split
  · exact List.filterMap_cons_none rfl
  · rfl

/-- Nor does a new state of the transport, with what follows from it. -/
theorem handedOver_setDtlsState (state : DtlsTransportState) :
    handedOver (setDtlsState ssl c name state) = handedOver c := by
  unfold setDtlsState
  split
  · rfl
  · dsimp only
    obtain ⟨srtp, calls, h⟩ := onDtlsState_eq ssl
      (c.modifyDtls name fun d => { d with dtlsState := state }).updateState name state
    rw [h]
    exact handedOver_updateState _

/-- Nor does an event of the adapter, whatever states and signals follow from it. -/
theorem handedOver_onDtlsEvent (e : SslEvent) :
    handedOver (onDtlsEvent ssl c name e) = handedOver c := by
  have hset : ∀ (c : TransportController) (writable : Bool) (state : DtlsTransportState),
      handedOver (setDtlsState ssl (setWritableState c name writable) name state)
        = handedOver c :=
    fun c writable state => handedOver_setDtlsState ssl (setWritableState c name writable) name state
  have hopened : handedOver (if e.opened then
      setDtlsState ssl (setWritableState c name true) name .connected else c) = handedOver c := by
    split
    · exact hset c true .connected
    · rfl
  unfold onDtlsEvent
  dsimp only
  generalize (if e.opened then
    setDtlsState ssl (setWritableState c name true) name .connected else c) = opened at *
  have hclosed : ∀ state, handedOver
      ((setDtlsState ssl (setWritableState opened name false) name state).push (.closed name))
        = handedOver c :=
    fun state => ((handedOver_push _ rfl).trans (hset opened false state)).trans hopened
  split
  · split
    · exact hclosed .closed
    · exact hclosed .failed
    · exact hopened
  · refine (hset _ false _).trans ?_
    split
    · exact hclosed .closed
    · exact hclosed .failed
    · exact hopened

/-- Nor do several of them. -/
theorem handedOver_onDtlsEvents (es : List SslEvent) :
    handedOver (onDtlsEvents ssl c name es) = handedOver c := by
  induction es generalizing c with
  | nil => rfl
  | cons e es ih => exact (ih _).trans (handedOver_onDtlsEvent ssl c name e)

end

/-- For every byte string: the walk of `_handle_dtls_packet` reads only bytes of it, and the
whole string is handed to the adapter, exactly once, if it is a concatenation of complete
records. Otherwise the call fails and hands nothing over. -/
theorem handleDtlsPacket_records (ssl : SslAdapter) (c : TransportController) (name data : Bytes) :
    (completeRecordsTraced data 0 data.length).value = completeRecords data ∧
      (completeRecordsTraced data 0 data.length).InBounds ∧
      (AreRecords data → (handleDtlsPacket ssl c name data).1 = true ∧
        handedOver (handleDtlsPacket ssl c name data).2 = (name, data) :: handedOver c) ∧
      (¬ AreRecords data → (handleDtlsPacket ssl c name data).1 = false ∧
        handedOver (handleDtlsPacket ssl c name data).2 = handedOver c) := by
  obtain ⟨hvalue, hbounds⟩ := completeRecordsTraced_spec data 0 data.length (Nat.zero_add _)
  refine ⟨hvalue, hbounds, fun hrecords => ?_, fun hrecords => ?_⟩
  · have hcalled : handedOver (c.push (.handlePacket name data)) = handedOver c :=
      handedOver_push c rfl
    have hreceived : ∀ c : TransportController,
        handedOver (c.push (.receivedPacket name data)).tick = (name, data) :: handedOver c :=
      fun c => List.filterMap_cons_some rfl
    unfold handleDtlsPacket onReceivedPacket
    dsimp only
    rw [if_pos ((completeRecords_iff data).mpr hrecords)]
    refine ⟨rfl, ?_⟩
    split
    · rw [handedOver_onDtlsEvents, hreceived, hcalled]
    · rw [hreceived, hcalled]
  · unfold handleDtlsPacket
    dsimp only
    rw [if_neg (mt (completeRecords_iff data).mp hrecords)]
    exact ⟨rfl, handedOver_push c rfl⟩

end Xrtc.Proofs.Pc
