import Mathlib.Data.List.Chain
import Xrtc.Lib.Run
import Xrtc.Sdk.RtpRtcp

/-!
# `Xrtc.Proofs.Sdk.SenderReports`: how often the SDK sends a sender report

Between two calls a module that sends video has no report flag set (`Ready`). So `SendRTCP`
has two outcomes. Before the first frame it clears the flag again and sends nothing
(`sendRtcp_noFrame`). After it, it sends one sender report, and the time of the next one is
set to at least half an interval after the time in the report (`sendRtcp_frame`).

Frames and tasks, early or late, all ask `TimeToSendRTCPPacket` first (`handle_eq`). Hence
the time of the next report is the only thing that two reports share: `Paced` says that it
is at least half an interval after the last report, and `handle_paced` that every call keeps
this. `senderReports_paced` collects what follows for every run.
-/

set_option autoImplicit false

namespace Xrtc.Proofs.Sdk

open Xrtc.Lib
open Xrtc.Sdk
open Xrtc.Sdk.ModuleRtpRtcp (Event Session SentReport)

variable {clock : Clock} {rand : Nat → Int → Int → Int}

/-! ### Reports -/

/-- The least and the greatest time to the next report that `PrepareReport` asks `random_`
for, in milliseconds. -/
def timeToNextBounds (intervalMs : Int) : Int × Int :=
  (Int.tdiv intervalMs 2, Int.tdiv (toInt32 (intervalMs * 3)) 2)

/-- The clock does not go back. -/
def NonDecreasing (clock : Clock) : Prop := ∀ n, clock.reading n ≤ clock.reading (n + 1)

/-- `random_` keeps to the bounds it is given. -/
def RandWithin (rand : Nat → Int → Int → Int) (bounds : Int × Int) : Prop :=
  ∀ n, bounds.1 ≤ rand n bounds.1 bounds.2 ∧ rand n bounds.1 bounds.2 ≤ bounds.2

/-- A module that sends video, with its interval, between two calls: every flag that was set
is consumed. -/
structure Ready (intervalMs : Int) (m : ModuleRtpRtcp) : Prop where
  audio : m.rtcpSender.audio = false
  maxPacketSize : m.rtcpSender.maxPacketSize = ipPacketSize - 28
  interval : m.rtcpSender.reportIntervalMs = intervalMs * 1000
  sending : m.rtcpSender.sending = true
  flags : m.rtcpSender.reportFlags = []

/-- Whether a module is ready is a matter of its sender only. -/
theorem Ready.of_rtcpSender {intervalMs : Int} {m m' : ModuleRtpRtcp} (h : Ready intervalMs m)
    (hsender : m'.rtcpSender = m.rtcpSender) : Ready intervalMs m' where
  audio := hsender ▸ h.audio
  maxPacketSize := hsender ▸ h.maxPacketSize
  interval := hsender ▸ h.interval
  sending := hsender ▸ h.sending
  flags := hsender ▸ h.flags

/-- Whole milliseconds come back from microseconds. -/
theorem toMs_mul (n : Int) : toMs (n * 1000) = n := by
  unfold toMs
  omega

/-- The time of the next report is in the future, in milliseconds. -/
def timeToNext (rand : Nat → Int → Int → Int) (intervalMs : Int) (m : ModuleRtpRtcp) : Int :=
  rand m.draws (timeToNextBounds intervalMs).1 (timeToNextBounds intervalMs).2

/-- The module after `SetNextRtcpSendEvaluationDuration`, with a task for the next report. -/
def scheduled (clock : Clock) (duration : Int) (m : ModuleRtpRtcp) : ModuleRtpRtcp :=
  { m with
      rtcpSender :=
        { m.rtcpSender with
            nextTimeToSendRtcp := some (clock.reading m.readings + duration) }
      tasks :=
        m.tasks ++ [⟨clock.reading (m.readings + 1) + duration,
          ModuleRtpRtcp.delayMillisForDuration duration⟩]
      readings := m.readings + 2 }

/-- The module after a report. The first reading is the time in the report. -/
def afterReport (clock : Clock) (duration : Int) (m : ModuleRtpRtcp) : ModuleRtpRtcp :=
  scheduled clock duration { m with readings := m.readings + 1, draws := m.draws + 1 }

/-- A duration that is not zero schedules one task and sends nothing now. -/
theorem setNextRtcpSendEvaluationDuration_eq
    {maybeSendRtcp : ModuleRtpRtcp → Option (List LocalRtcpPacket × ModuleRtpRtcp)}
    (m : ModuleRtpRtcp) {duration : Int} (hne : duration ≠ 0) :
    m.setNextRtcpSendEvaluationDuration clock maybeSendRtcp duration =
      some ([], scheduled clock duration m) := by
  show ModuleRtpRtcp.scheduleNextRtcpSend clock maybeSendRtcp _ duration = _
  unfold ModuleRtpRtcp.scheduleNextRtcpSend
  rw [if_neg hne]
  rfl

/-- A sender report without blocks has 28 bytes. -/
theorem bytes_length (sr : SenderReport) : sr.bytes.length = 28 := by
  simp [SenderReport.bytes, createHeader]

/-- A report fits into an empty packet. -/
theorem append_empty (sr : SenderReport) :
    (PacketSender.append (ipPacketSize - 28) {} sr).send = [sr.bytes] := by
  have hroom : sr.blockLength ≤ ipPacketSize - 28 := by
    show 4 + 24 ≤ 1500 - 28
    omega
  have happend : PacketSender.append (ipPacketSize - 28) {} sr = { buffer := sr.bytes } := by
    simp [PacketSender.append, hroom]
  rw [happend]
  exact if_pos (by rw [bytes_length]; omega)

/-- `SendRTCP` before the first frame. -/
theorem sendRtcp_noFrame (clock : Clock) (rand : Nat → Int → Int → Int) {intervalMs : Int}
    {m : ModuleRtpRtcp} (hready : Ready intervalMs m)
    (hframe : m.rtcpSender.lastFrameCaptureTime = none) (fuel : Nat) (fs : FeedbackState) :
    m.sendRtcp clock rand (fuel + 1) fs kRtcpReport = some (0, [], m) := by
  obtain ⟨stats, rtx, sender, tasks, readings, draws⟩ := m
  obtain ⟨audio, ssrc, rate, size, interval, mode, flags, sending, last, capture, next⟩ := sender
  obtain rfl : flags = [] := hready.flags
  obtain rfl : capture = none := hframe
  rfl

/-- The module with other flags. -/
def withFlags (m : ModuleRtpRtcp) (flags : List ReportFlag) : ModuleRtpRtcp :=
  m.withSender fun s => { s with reportFlags := flags }

/-- A ready module has no flag set, so clearing them changes nothing. -/
theorem Ready.withFlags_nil {intervalMs : Int} {m : ModuleRtpRtcp} (hready : Ready intervalMs m) :
    withFlags m [] = m := by
  unfold withFlags ModuleRtpRtcp.withSender
  rw [← hready.flags]

/-- `PrepareReport` in the middle of `SendRTCP`. It has a task run again later, and does not
send another report from inside, since the time to the next one is not zero. -/
theorem prepareReport_eq
    (maybeSendRtcp : ModuleRtpRtcp → Option (List LocalRtcpPacket × ModuleRtpRtcp))
    {intervalMs : Int} {m : ModuleRtpRtcp} (hready : Ready intervalMs m)
    (htime : timeToNext rand intervalMs m ≠ 0) :
    ModuleRtpRtcp.prepareReport clock rand maybeSendRtcp
        { withFlags m [⟨kRtcpReport, true⟩] with readings := m.readings + 1 } =
      some ([], withFlags (afterReport clock (timeToNext rand intervalMs m * 1000) m)
        [⟨kRtcpSr, true⟩]) := by
  have hne : timeToNext rand intervalMs m * 1000 ≠ 0 := by omega
  have hinterval : toMs m.rtcpSender.reportIntervalMs = intervalMs := by
    rw [hready.interval, toMs_mul]
  -- `kRtcpReport` is consumed and `kRtcpSr` takes its place
  simp only [ModuleRtpRtcp.prepareReport, withFlags, ModuleRtpRtcp.withSender, hinterval,
    hready.sending, if_true]
  refine (setNextRtcpSendEvaluationDuration_eq _ hne).trans ?_
  simp only [afterReport, scheduled, hready.sending]
  rfl

/-- Only the flag of the sender report has a builder. -/
theorem buildPackets_eq {s : RTCPSender} {fs : FeedbackState} {now : Int} {sr : SenderReport}
    (hsize : s.maxPacketSize = ipPacketSize - 28) (hbuild : s.buildSr clock fs now = some sr) :
    s.buildPackets clock fs now [⟨kRtcpSr, true⟩] {} =
      some (PacketSender.append (ipPacketSize - 28) {} sr) := by
  show ((s.buildSr clock fs now).map (PacketSender.append s.maxPacketSize {})) >>= some = _
  rw [hbuild, hsize]
  rfl

/-- `ComputeCompoundRTCPPacket` with the flag that `SendRTCP` sets. -/
theorem computeReports_eq
    (maybeSendRtcp : ModuleRtpRtcp → Option (List LocalRtcpPacket × ModuleRtpRtcp))
    {intervalMs : Int} {m : ModuleRtpRtcp} {fs : FeedbackState} {sr : SenderReport}
    (hready : Ready intervalMs m) (htime : timeToNext rand intervalMs m ≠ 0)
    (hbuild : m.rtcpSender.buildSr clock fs (clock.reading m.readings) = some sr) :
    ModuleRtpRtcp.computeReports clock rand maybeSendRtcp (withFlags m [⟨kRtcpReport, true⟩]) fs =
      some (0, [⟨clock.reading m.readings, sr.bytes⟩],
        afterReport clock (timeToNext rand intervalMs m * 1000) m) := by
  have hafter : Ready intervalMs (afterReport clock (timeToNext rand intervalMs m * 1000) m) :=
    ⟨hready.audio, hready.maxPacketSize, hready.interval, hready.sending, hready.flags⟩
  have hpackets := buildPackets_eq
    (s := (withFlags (afterReport clock (timeToNext rand intervalMs m * 1000) m)
      [⟨kRtcpSr, true⟩]).rtcpSender) hready.maxPacketSize hbuild
  unfold ModuleRtpRtcp.computeReports
  refine (congrArg (· >>= _) (prepareReport_eq maybeSendRtcp hready htime)).trans ?_
  refine (congrArg (· >>= _) hpackets).trans ?_
  -- the volatile flag of the report is gone again
  show some (0, [] ++ (PacketSender.append (ipPacketSize - 28) {} sr).send.map _,
    withFlags (afterReport clock (timeToNext rand intervalMs m * 1000) m) []) = _
  rw [append_empty, hafter.withFlags_nil]
  rfl

/-- `SendRTCP` after a frame. -/
theorem sendRtcp_frame (clock : Clock) {intervalMs : Int} {m : ModuleRtpRtcp}
    (hready : Ready intervalMs m)
    (hframe : m.rtcpSender.lastFrameCaptureTime.isSome) (htime : timeToNext rand intervalMs m ≠ 0)
    (fuel : Nat) (fs : FeedbackState) :
    ∃ sr, m.rtcpSender.buildSr clock fs (clock.reading m.readings) = some sr ∧
      m.sendRtcp clock rand (fuel + 1) fs kRtcpReport =
        some (0, [⟨clock.reading m.readings, sr.bytes⟩],
          afterReport clock (timeToNext rand intervalMs m * 1000) m) := by
  obtain ⟨captureTime, hcapture⟩ := Option.isSome_iff_exists.mp hframe
  have hbuild : ∃ sr, m.rtcpSender.buildSr clock fs (clock.reading m.readings) = some sr := by
    unfold RTCPSender.buildSr
    rw [hcapture]
    exact ⟨_, rfl⟩
  obtain ⟨sr, hsr⟩ := hbuild
  refine ⟨sr, hsr, ?_⟩
  show ModuleRtpRtcp.sendRtcpWith clock rand _ m fs kRtcpReport = _
  simp only [ModuleRtpRtcp.sendRtcpWith, ModuleRtpRtcp.withSender, hready.flags]
  rw [if_pos hframe]
  exact computeReports_eq _ hready htime hsr

/-! ### Calls -/

/-- The module in which a frame or a task asks `TimeToSendRTCPPacket`, and whether it is for
a key frame. A task that is early, or gone, does not ask. -/
def asks (clock : Clock) (m : ModuleRtpRtcp) : Event → Option (Bool × ModuleRtpRtcp)
  | .frame rtpTimestamp captureTimeMs forcedReport =>
      some (forcedReport, m.setLastRtpTimestamp clock rtpTimestamp
        (if 0 < captureTimeMs then some (captureTimeMs * 1000) else none))
  | .task index => do
      let task ← m.tasks[index]?
      if task.executeTime ≤ clock.reading m.readings then
        some (false, { m with tasks := m.tasks.eraseIdx index, readings := m.readings + 1 })
      else none

/-- What a call may change without sending: the tasks and the readings of the clock. -/
structure SameSender (m m' : ModuleRtpRtcp) : Prop where
  rtpStats : m'.rtpStats = m.rtpStats
  rtxRtpStats : m'.rtxRtpStats = m.rtxRtpStats
  rtcpSender : m'.rtcpSender = m.rtcpSender

/-- An event that asks for a report is handled by the test whether it is time for one. -/
theorem handle_asks (rand : Nat → Int → Int → Int) {m m' : ModuleRtpRtcp} {e : Event} {keyFrame : Bool}
    (h : asks clock m e = some (keyFrame, m')) (fuel : Nat) :
    m.handle clock rand fuel e = m'.sendIfTime clock rand fuel keyFrame := by
  cases e with
  | frame rtpTimestamp captureTimeMs forcedReport =>
      cases h
      rfl
  | task index =>
      obtain ⟨task, htask, hdue⟩ := Option.bind_eq_some_iff.mp h
      split at hdue
      · rename_i hle
        cases hdue
        show ModuleRtpRtcp.fireTask clock rand fuel m index = _
        unfold ModuleRtpRtcp.fireTask
        rw [htask]
        exact if_pos hle
      · cases hdue

/-- An event that does not ask is no frame, and leaves the sender as it was. -/
theorem handle_quiet (rand : Nat → Int → Int → Int) {m : ModuleRtpRtcp} {e : Event}
    (h : asks clock m e = none) (fuel : Nat) :
    ¬ e.IsFrame ∧ ∃ m', m.handle clock rand fuel e = some ([], m') ∧ SameSender m m' := by
  cases e with
  | frame rtpTimestamp captureTimeMs forcedReport => cases h
  | task index =>
      refine ⟨id, ?_⟩
      show ∃ m', ModuleRtpRtcp.fireTask clock rand fuel m index = some ([], m') ∧ _
      unfold ModuleRtpRtcp.fireTask
      cases htask : m.tasks[index]? with
      | none => exact ⟨m, rfl, ⟨rfl, rfl, rfl⟩⟩
      | some task =>
          have hlate : ¬ task.executeTime ≤ clock.reading m.readings := by
            intro hle
            simp [asks, htask, hle] at h
          exact ⟨_, if_neg hlate, ⟨rfl, rfl, rfl⟩⟩

/-- What a frame or a task may change before it asks. Only a frame sets the capture time of
the last frame. -/
structure AskedFrom (m m' : ModuleRtpRtcp) (e : Event) : Prop where
  rtpStats : m'.rtpStats = m.rtpStats
  rtxRtpStats : m'.rtxRtpStats = m.rtxRtpStats
  nextTime : m'.rtcpSender.nextTimeToSendRtcp = m.rtcpSender.nextTimeToSendRtcp
  ready : ∀ {intervalMs : Int}, Ready intervalMs m → Ready intervalMs m'
  frame : m'.rtcpSender.lastFrameCaptureTime.isSome ↔
    m.rtcpSender.lastFrameCaptureTime.isSome ∨ e.IsFrame

/-- A frame leaves its timestamps in the sender, and nothing else of it changes. -/
theorem setLastRtpTimestamp_askedFrom (m : ModuleRtpRtcp) (rtpTimestamp : UInt32)
    (captureTime : Option Int) (captureTimeMs : Int) (forcedReport : Bool) :
    AskedFrom m (m.setLastRtpTimestamp clock rtpTimestamp captureTime)
      (.frame rtpTimestamp captureTimeMs forcedReport) := by
  unfold ModuleRtpRtcp.setLastRtpTimestamp
  cases captureTime with
  | some time =>
      exact ⟨rfl, rfl, rfl, fun h => ⟨h.audio, h.maxPacketSize, h.interval, h.sending, h.flags⟩,
        iff_of_true rfl (Or.inr trivial)⟩
  | none =>
      exact ⟨rfl, rfl, rfl, fun h => ⟨h.audio, h.maxPacketSize, h.interval, h.sending, h.flags⟩,
        iff_of_true rfl (Or.inr trivial)⟩

/-- What an event asks for: a key frame is asked about as one, and the module is the one before
with the timestamps of the frame. -/
theorem asks_spec {m m' : ModuleRtpRtcp} {e : Event} {keyFrame : Bool}
    (h : asks clock m e = some (keyFrame, m')) :
    keyFrame = e.isKeyFrame ∧ AskedFrom m m' e := by
  cases e with
  | frame rtpTimestamp captureTimeMs forcedReport =>
      cases h
      exact ⟨rfl, setLastRtpTimestamp_askedFrom m rtpTimestamp _ captureTimeMs _⟩
  | task index =>
      obtain ⟨task, htask, hdue⟩ := Option.bind_eq_some_iff.mp h
      split at hdue
      · cases hdue
        exact ⟨rfl, rfl, rfl, rfl, fun h => h.of_rtcpSender rfl, (or_iff_left id).symm⟩
      · cases hdue

/-- A reading of the clock is taken. -/
def read (m : ModuleRtpRtcp) : ModuleRtpRtcp := { m with readings := m.readings + 1 }

/-- A report is due, which for a key frame is a little earlier. -/
def Due (clock : Clock) (m : ModuleRtpRtcp) (keyFrame : Bool) (nextTime : Int) : Prop :=
  nextTime ≤ clock.reading m.readings + if keyFrame then rtcpBeforeKeyFrame else 0

/-- The time for a report has come exactly when it is due, on a clock that the test reads once. -/
theorem timeToSendRtcpPacket_eq {intervalMs : Int} {m : ModuleRtpRtcp} {nextTime : Int}
    (hready : Ready intervalMs m) (hnext : m.rtcpSender.nextTimeToSendRtcp = some nextTime)
    (keyFrame : Bool) [Decidable (Due clock m keyFrame nextTime)] :
    m.timeToSendRtcpPacket clock keyFrame =
      some (decide (Due clock m keyFrame nextTime), read m) := by
  simp only [ModuleRtpRtcp.timeToSendRtcpPacket, ModuleRtpRtcp.currentTime, hready.audio, hnext]
  cases keyFrame with
  | true => simp [Due, read]
  | false => simp [Due, read]

/-- The three outcomes of the question: no report is due, one is due before the first frame,
and one is sent. -/
theorem sendIfTime_cases {intervalMs : Int} {m : ModuleRtpRtcp} {nextTime : Int}
    (hready : Ready intervalMs m) (hnext : m.rtcpSender.nextTimeToSendRtcp = some nextTime)
    (htime : timeToNext rand intervalMs (read m) ≠ 0) (fuel : Nat) (keyFrame : Bool) :
    m.sendIfTime clock rand (fuel + 1) keyFrame = some ([], read m) ∧
        (¬ Due clock m keyFrame nextTime ∨ m.rtcpSender.lastFrameCaptureTime = none) ∨
      Due clock m keyFrame nextTime ∧ m.rtcpSender.lastFrameCaptureTime.isSome ∧ ∃ sr,
        m.rtcpSender.buildSr clock m.getFeedbackState (clock.reading (m.readings + 1)) = some sr ∧
        m.sendIfTime clock rand (fuel + 1) keyFrame =
          some ([⟨clock.reading (m.readings + 1), sr.bytes⟩],
            afterReport clock (timeToNext rand intervalMs (read m) * 1000) (read m)) := by
  classical
  have hread : Ready intervalMs (read m) := hready.of_rtcpSender rfl
  unfold ModuleRtpRtcp.sendIfTime
  rw [timeToSendRtcpPacket_eq hready hnext keyFrame]
  -- not due: nothing is sent; due without a frame: the report is dropped
  by_cases hdue : Due clock m keyFrame nextTime
  · rw [decide_eq_true hdue]
    cases hframe : m.rtcpSender.lastFrameCaptureTime with
    | none =>
        left
        have hsend := sendRtcp_noFrame clock rand hread hframe fuel (read m).getFeedbackState
        exact ⟨congrArg (· >>= _) hsend, Or.inr rfl⟩
    | some captureTime =>
        right
        have hsome : (read m).rtcpSender.lastFrameCaptureTime.isSome :=
          Option.isSome_iff_exists.mpr ⟨captureTime, hframe⟩
        obtain ⟨sr, hsr, hsend⟩ := sendRtcp_frame clock hread hsome htime fuel
          (read m).getFeedbackState
        exact ⟨hdue, rfl, sr, hsr, congrArg (· >>= _) hsend⟩
  · rw [decide_eq_false hdue]
    exact Or.inl ⟨rfl, Or.inl hdue⟩

/-! ### Runs -/

/-- Two reports in a row, the later one up to 100 ms early if a key frame has triggered it. -/
def Spaced (intervalMs : Int) (earlier later : SentReport) : Prop :=
  earlier.packet.time + (intervalMs / 2 - if later.keyFrame then 100 else 0) * 1000 ≤
    later.packet.time

/-- The invariant of a module and its reports. -/
structure Paced (intervalMs : Int) (s : Session) : Prop where
  ready : Ready intervalMs s.m
  nextTime : ∃ t, s.m.rtcpSender.nextTimeToSendRtcp = some t ∧
    ∀ r ∈ s.reports.getLast?, r.packet.time + intervalMs / 2 * 1000 ≤ t
  spaced : s.reports.IsChain (Spaced intervalMs)
  frame : s.m.rtcpSender.lastFrameCaptureTime = none → s.reports = []

/-- A call that sends nothing. -/
theorem Paced.keep {intervalMs : Int} {s : Session} (h : Paced intervalMs s) {m : ModuleRtpRtcp}
    (hready : Ready intervalMs m)
    (hnext : m.rtcpSender.nextTimeToSendRtcp = s.m.rtcpSender.nextTimeToSendRtcp)
    (hframe : m.rtcpSender.lastFrameCaptureTime = none →
      s.m.rtcpSender.lastFrameCaptureTime = none) :
    Paced intervalMs { m, reports := s.reports ++ [] } := by
  rw [List.append_nil]
  exact ⟨hready, hnext ▸ h.nextTime, h.spaced, fun hnone => h.frame (hframe hnone)⟩

/-- A call that sends a report, when it is due. The next one is due half an interval later at the
earliest, which spaces them. -/
theorem Paced.report {intervalMs : Int} {s : Session} (h : Paced intervalMs s) {m : ModuleRtpRtcp}
    {nextTime nextTime' : Int} (hready : Ready intervalMs m)
    (hframe : m.rtcpSender.lastFrameCaptureTime.isSome)
    (hdue : s.m.rtcpSender.nextTimeToSendRtcp = some nextTime)
    (hnext : m.rtcpSender.nextTimeToSendRtcp = some nextTime') {report : SentReport}
    (hlow : nextTime ≤ report.packet.time + if report.keyFrame then rtcpBeforeKeyFrame else 0)
    (hhigh : report.packet.time + intervalMs / 2 * 1000 ≤ nextTime') :
    Paced intervalMs { m, reports := s.reports ++ [report] } where
  ready := hready
  nextTime := by
    refine ⟨nextTime', hnext, ?_⟩
    intro r hr
    rw [List.getLast?_concat] at hr
    cases hr
    exact hhigh
  spaced := by
    refine List.IsChain.append h.spaced (List.isChain_singleton report) ?_
    intro earlier hearlier later hlater
    cases hlater
    -- the last report is far enough in front of the time that was due
    obtain ⟨t, ht, hlast⟩ := h.nextTime
    obtain rfl : t = nextTime := Option.some.inj (ht.symm.trans hdue)
    have hge := hlast earlier hearlier
    show earlier.packet.time + (intervalMs / 2 - if report.keyFrame then 100 else 0) * 1000 ≤ _
    -- a report of a key frame may come before that time
    cases hkey : report.keyFrame with
    | true =>
        rw [hkey] at hlow
        have hbefore : t ≤ report.packet.time + 100 * 1000 := hlow
        show earlier.packet.time + (intervalMs / 2 - 100) * 1000 ≤ report.packet.time
        omega
    | false =>
        rw [hkey] at hlow
        have hbefore : t ≤ report.packet.time + 0 := hlow
        show earlier.packet.time + (intervalMs / 2 - 0) * 1000 ≤ report.packet.time
        omega
  frame := fun hnone => by
    rw [hnone] at hframe
    cases hframe

/-- An event after which `SendRTCP` is called, and the module it is called for. -/
def CallsSendRtcp (clock : Clock) (m : ModuleRtpRtcp) (e : Event) (m' : ModuleRtpRtcp) : Prop :=
  ∃ keyFrame asked, asks clock m e = some (keyFrame, asked) ∧
    asked.timeToSendRtcpPacket clock keyFrame = some (true, m')

/-- `SendRTCP` sends one sender report and leaves no volatile flag. -/
def SendsOneReport (clock : Clock) (rand : Nat → Int → Int → Int) (fuel : Nat)
    (m : ModuleRtpRtcp) : Prop :=
  ∃ packet m', m.sendRtcp clock rand fuel m.getFeedbackState kRtcpReport = some (0, [packet], m') ∧
    (∃ sr : SenderReport, sr.bytes = packet.data) ∧
    ∀ flag ∈ m'.rtcpSender.reportFlags, flag.isVolatile = false

/-- The random time to the next report is at least half an interval, which is not zero. -/
theorem timeToNext_ge {intervalMs : Int} (hinterval : 2 ≤ intervalMs)
    (hrand : RandWithin rand (timeToNextBounds intervalMs)) (m : ModuleRtpRtcp) :
    intervalMs / 2 ≤ timeToNext rand intervalMs m := by
  have hlow : Int.tdiv intervalMs 2 = intervalMs / 2 := Int.tdiv_eq_ediv_of_nonneg (by omega)
  have hge := (hrand m.draws).1
  rw [timeToNextBounds, hlow] at hge
  rw [timeToNext, timeToNextBounds, hlow]
  exact hge

/-- The drawn time to the next report is never zero, so the report is scheduled and not sent at
once. -/
theorem timeToNext_ne {intervalMs : Int} (hinterval : 2 ≤ intervalMs)
    (hrand : RandWithin rand (timeToNextBounds intervalMs)) (m : ModuleRtpRtcp) :
    timeToNext rand intervalMs m ≠ 0 := by
  have hge := timeToNext_ge hinterval hrand m
  omega

/-- A report leaves the module ready for the next one. -/
theorem ready_afterReport (clock : Clock) {intervalMs : Int} {m : ModuleRtpRtcp}
    (h : Ready intervalMs m)
    (duration : Int) : Ready intervalMs (afterReport clock duration m) :=
  ⟨h.audio, h.maxPacketSize, h.interval, h.sending, h.flags⟩

section
variable {intervalMs : Int} (hclock : NonDecreasing clock) (hinterval : 2 ≤ intervalMs)
  (hrand : RandWithin rand (timeToNextBounds intervalMs))
include hinterval hrand

/-- A call that sends a report. -/
theorem Paced.callsSendRtcp {s : Session} (h : Paced intervalMs s) {e : Event}
    {m' : ModuleRtpRtcp} (hcall : CallsSendRtcp clock s.m e m')
    (hframe : s.m.rtcpSender.lastFrameCaptureTime.isSome ∨ e.IsFrame) (fuel : Nat) :
    SendsOneReport clock rand (fuel + 1) m' := by
  classical
  obtain ⟨keyFrame, asked, hasks, htime⟩ := hcall
  obtain ⟨-, hasked⟩ := asks_spec hasks
  obtain ⟨t, hnext, -⟩ := h.nextTime
  have hready : Ready intervalMs asked := hasked.ready h.ready
  rw [timeToSendRtcpPacket_eq hready (hasked.nextTime.trans hnext) keyFrame] at htime
  obtain rfl : read asked = m' := congrArg Prod.snd (Option.some.inj htime)
  have hread : Ready intervalMs (read asked) := hready.of_rtcpSender rfl
  obtain ⟨sr, -, hsend⟩ := sendRtcp_frame clock hread (hasked.frame.mpr hframe)
    (timeToNext_ne hinterval hrand _) fuel (read asked).getFeedbackState
  refine ⟨_, _, hsend, ⟨sr, rfl⟩, ?_⟩
  rw [(ready_afterReport clock hread _).flags]
  exact fun flag hflag => absurd hflag List.not_mem_nil

include hclock

/-- One event has a next state and keeps the pacing, and the module remembers a frame from then
on. -/
theorem Paced.step {s : Session} (h : Paced intervalMs s) (e : Event) (fuel : Nat) :
    ∃ s', s.step clock rand (fuel + 1) e = some s' ∧ Paced intervalMs s' ∧
      (s'.m.rtcpSender.lastFrameCaptureTime.isSome ↔
        s.m.rtcpSender.lastFrameCaptureTime.isSome ∨ e.IsFrame) := by
  obtain ⟨t, hnext, -⟩ := h.nextTime
  cases hasks : asks clock s.m e with
  | none =>
      -- an early task, which is posted again
      obtain ⟨htask, m', hm', hsame⟩ := handle_quiet rand hasks (fuel + 1)
      have hsender := hsame.rtcpSender
      refine ⟨_, congrArg (· >>= _) hm', h.keep (h.ready.of_rtcpSender hsender) ?_ ?_, ?_⟩
      · rw [hsender]
      · rw [hsender]
        exact id
      · show m'.rtcpSender.lastFrameCaptureTime.isSome ↔ _
        rw [hsender]
        exact (or_iff_left htask).symm
  | some pair =>
      obtain ⟨keyFrame, asked⟩ := pair
      obtain ⟨rfl, hasked⟩ := asks_spec hasks
      have hready : Ready intervalMs asked := hasked.ready h.ready
      have hnext' := hasked.nextTime.trans hnext
      have hhandle := handle_asks rand hasks (fuel + 1)
      have hne := timeToNext_ne hinterval hrand (read asked)
      obtain ⟨hsend, -⟩ | ⟨hdue, hsome, sr, hsr, hsend⟩ :=
        sendIfTime_cases hready hnext' hne fuel e.isKeyFrame
      · refine ⟨_, congrArg (· >>= _) (hhandle.trans hsend),
          h.keep (hready.of_rtcpSender rfl) hasked.nextTime ?_, hasked.frame⟩
        intro hnone
        cases hold : s.m.rtcpSender.lastFrameCaptureTime with
        | none => rfl
        | some time =>
            have hsome := hasked.frame.mpr (Or.inl (Option.isSome_iff_exists.mpr ⟨time, hold⟩))
            have hnone' : asked.rtcpSender.lastFrameCaptureTime = none := hnone
            rw [hnone'] at hsome
            cases hsome
      · have hge := timeToNext_ge hinterval hrand (read asked)
        have hearly : clock.reading asked.readings ≤ clock.reading (asked.readings + 1) :=
          hclock _
        have hlate : clock.reading (asked.readings + 1) ≤ clock.reading (asked.readings + 1 + 1) :=
          hclock _
        have hread : Ready intervalMs (read asked) := hready.of_rtcpSender rfl
        have hafter := ready_afterReport clock hread (timeToNext rand intervalMs (read asked) * 1000)
        refine ⟨_, congrArg (· >>= _) (hhandle.trans hsend),
          h.report hafter hsome hnext rfl ?_ ?_, hasked.frame⟩
        · -- the time in the report is read after the time that was compared
          have hcompared : t ≤ clock.reading asked.readings +
            if e.isKeyFrame then rtcpBeforeKeyFrame else 0 := hdue
          show t ≤ clock.reading (asked.readings + 1) +
            if e.isKeyFrame then rtcpBeforeKeyFrame else 0
          omega
        · show clock.reading (asked.readings + 1) + intervalMs / 2 * 1000 ≤
            clock.reading (asked.readings + 1 + 1) + timeToNext rand intervalMs (read asked) * 1000
          omega

/-- Every event has a result. -/
theorem Paced.run {s : Session} (h : Paced intervalMs s) (events : List Event) (fuel : Nat) :
    ∃ s', runPartial (Session.step clock rand (fuel + 1)) s events = some s' ∧
      Paced intervalMs s' ∧
      (s'.m.rtcpSender.lastFrameCaptureTime.isSome ↔
        s.m.rtcpSender.lastFrameCaptureTime.isSome ∨ ∃ e ∈ events, e.IsFrame) := by
  induction events generalizing s with
  | nil => exact ⟨s, rfl, h, by simp⟩
  | cons e events ih =>
      obtain ⟨t, hstep, ht, hframe⟩ := h.step hclock hinterval hrand e fuel
      obtain ⟨s', hrun, hs', hframes⟩ := ih ht
      refine ⟨s', (runPartial_cons hstep events).trans hrun, hs', ?_⟩
      rw [hframes, hframe, List.exists_mem_cons_iff, or_assoc]

end

/-- `SetRTCPStatus` for the first time. -/
theorem setRtcpStatus_eq (clock : Clock)
    (maybeSendRtcp : ModuleRtpRtcp → Option (List LocalRtcpPacket × ModuleRtpRtcp))
    {m : ModuleRtpRtcp} {mode : RtcpMode} (hmode : mode ≠ .off) (hoff : m.rtcpSender.mode = .off)
    (hne : Int.tdiv m.rtcpSender.reportIntervalMs 2 ≠ 0) :
    m.setRtcpStatus clock maybeSendRtcp mode =
      some ([], (scheduled clock (Int.tdiv m.rtcpSender.reportIntervalMs 2) m).withSender fun s =>
        { s with mode := mode }) := by
  unfold ModuleRtpRtcp.setRtcpStatus
  rw [if_neg hmode, if_pos hoff]
  exact congrArg (· >>= _) (setNextRtcpSendEvaluationDuration_eq m hne)

/-- A module starts without a report and without a packet. It is first asked for a report
after half an interval. -/
theorem start_spec (clock : Clock) (rand : Nat → Int → Int → Int) {config : Configuration}
    {mode : RtcpMode} (haudio : config.audio = false) (hinterval : 2 ≤ config.rtcpReportIntervalMs)
    (hmode : mode ≠ .off) (fuel : Nat) :
    ∃ m, ModuleRtpRtcp.start clock rand fuel config mode = some ([], m) ∧
      Ready config.rtcpReportIntervalMs m ∧
      (∃ t, m.rtcpSender.nextTimeToSendRtcp = some t) ∧
      m.rtcpSender.lastFrameCaptureTime = none ∧ m.rtpStats = {} ∧ m.rtxRtpStats = {} := by
  have hreport : getReportInterval config.rtcpReportIntervalMs
      (if config.audio then kDefaultAudioRtcpIntervalMs else kDefaultVideoRtcpIntervalMs) =
        config.rtcpReportIntervalMs * 1000 := if_pos (by omega)
  have hne : Int.tdiv (RTCPSender.new config).reportIntervalMs 2 ≠ 0 := by
    show Int.tdiv (getReportInterval _ _) 2 ≠ 0
    rw [hreport, Int.tdiv_eq_ediv_of_nonneg (by omega)]
    omega
  have hstatus := setRtcpStatus_eq clock (ModuleRtpRtcp.maybeSendRtcp clock rand fuel)
    (m := { rtcpSender := RTCPSender.new config, readings := 1 }) hmode rfl hne
  exact ⟨_, congrArg (· >>= _) hstatus, ⟨haudio, rfl, hreport, rfl, rfl⟩, ⟨_, rfl⟩, rfl, rfl, rfl⟩

/-- The pacing of the sender reports, for every order of frames and tasks and all random numbers.
There is always a next state, nothing is reported before the first frame, each call that is to
report does so once, and two reports are half an interval apart, less 100 ms for a key frame. -/
theorem senderReports_paced {config : Configuration} {mode : RtcpMode}
    (hclock : NonDecreasing clock) (haudio : config.audio = false)
    (hinterval : 2 ≤ config.rtcpReportIntervalMs) (hmode : mode ≠ .off)
    (hrand : RandWithin rand (timeToNextBounds config.rtcpReportIntervalMs))
    (events : List Event) (fuel : Nat) :
    ∃ start s, Session.start clock rand (fuel + 1) config mode = some start ∧
      runPartial (Session.step clock rand (fuel + 1)) start events = some s ∧
      ((∀ e ∈ events, ¬ e.IsFrame) → s.reports = []) ∧
      (∀ e m, CallsSendRtcp clock s.m e m → (∃ frame ∈ events ++ [e], frame.IsFrame) →
        SendsOneReport clock rand (fuel + 1) m) ∧
      s.reports.IsChain (Spaced config.rtcpReportIntervalMs) := by
  obtain ⟨m, hstart, hready, ⟨t, hnext⟩, hfirst, -, -⟩ :=
    start_spec clock rand haudio hinterval hmode (fuel + 1)
  have hpaced : Paced config.rtcpReportIntervalMs { m } := by
    refine ⟨hready, ⟨t, hnext, ?_⟩, List.isChain_nil, fun _ => rfl⟩
    intro r hr
    cases hr
  obtain ⟨s, hrun, hs, hframe⟩ := hpaced.run hclock hinterval hrand events fuel
  -- a session begins without a frame, so any frame it has is one of the run
  have hframes : s.m.rtcpSender.lastFrameCaptureTime.isSome ↔ ∃ e ∈ events, e.IsFrame := by
    rw [hframe, hfirst]
    exact or_iff_right Bool.false_ne_true
  refine ⟨{ m }, s, congrArg (· >>= _) hstart, hrun, ?_, ?_, hs.spaced⟩
  · intro hno
    apply hs.frame
    cases hlast : s.m.rtcpSender.lastFrameCaptureTime with
    | none => rfl
    | some time =>
        obtain ⟨e, he, hisFrame⟩ := hframes.mp (Option.isSome_iff_exists.mpr ⟨time, hlast⟩)
        exact absurd hisFrame (hno e he)
  · intro e m hcall hsome
    apply hs.callsSendRtcp hinterval hrand hcall
    obtain ⟨frame, hmem, hisFrame⟩ := hsome
    obtain hold | hnew := List.mem_append.mp hmem
    · exact Or.inl (hframes.mpr ⟨frame, hold, hisFrame⟩)
    · obtain rfl := List.mem_singleton.mp hnew
      exact Or.inr hisFrame

/-- A clock that is read every 400 ms. -/
def slowClock : Clock := ⟨fun n => n * 400000, fun _ => (0, 0)⟩

/-- The configuration of a video stream. -/
def videoConfig : Configuration := ⟨false, 7, 90000, 1000⟩

/-- A run with the shortest times the draw allows. -/
theorem shortestTimes_paced :
    ∃ start s, Session.start slowClock (fun _ low _ => low) 1 videoConfig .compound = some start ∧
      runPartial (Session.step slowClock (fun _ low _ => low) 1) start
        [.task 0, .frame 90 1 false, .frame 180 2 true] = some s ∧
      ((∀ e ∈ [Event.task 0, .frame 90 1 false, .frame 180 2 true], ¬ e.IsFrame) → s.reports = []) ∧
      (∀ e m, CallsSendRtcp slowClock s.m e m →
        (∃ frame ∈ [Event.task 0, .frame 90 1 false, .frame 180 2 true] ++ [e], frame.IsFrame) →
        SendsOneReport slowClock (fun _ low _ => low) 1 m) ∧
      s.reports.IsChain (Spaced 1000) := by
  have hclock : NonDecreasing slowClock := by
    intro n
    show (n : Int) * 400000 ≤ ((n + 1 : Nat) : Int) * 400000
    omega
  exact senderReports_paced hclock rfl (by decide)
    (by decide) (fun _ => ⟨le_refl _, by decide⟩) _ 0

end Xrtc.Proofs.Sdk
