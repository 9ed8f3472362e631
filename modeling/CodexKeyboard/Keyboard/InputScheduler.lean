import CodexKeyboard.Keyboard.MouseWheelQueue
/-!
# The BLE input scheduler

`BleInputScheduler` (`components/keyboard/src/ble_input_scheduler.cpp`) offers the head of one of
two queues to the transmitter, one report for each delivery period, later after a refusal. The
counters of `diagnostics_` are left out, and so are null arguments.

| here | there |
| --- | --- |
| `BleInputSchedulerConfig.clamped` | `BleInputScheduler::BleInputScheduler` (ble_input_scheduler.cpp:26) |
| `poll`, `shouldSendHid`, `retryDelayUs` | ble_input_scheduler.cpp:98, 213, 253 |
| `setConnectionInterval`, `resetDeliveryClock`, `markDisconnected` | ble_input_scheduler.cpp:50, 79, 87 |
| `InputDelivery`, `DeliveryEvent` | the scheduler and its two queues, and what their owner does with them |
-/

namespace CodexKeyboard.Keyboard

open Lib

def u64Max : Nat := 18446744073709551615
def u32Max : Nat := 4294967295

/-- `saturating_add` on 64 bits. -/
def saturatingAdd (lhs rhs : Nat) : Nat := if rhs > u64Max - lhs then u64Max else lhs + rhs

inductive BleInputTxResult where
  | accepted
  | droppedUnsupported
  | retryableNoBuffer
  | retryableBusy
  | disconnected
  | fatal
deriving DecidableEq, Repr

inductive BleInputPollResult where
  | idle
  | throttled
  | accepted
  | droppedUnsupported
  | retryable
  | disconnected
  | fatal
deriving DecidableEq, Repr

/-- `BleScheduledReport`, with the fields of its kind. -/
inductive BleScheduledReport where
  | hid (sequence : UInt32) (reportId : UInt8) (data : List UInt8) (reportClass : HidReportClass)
    (bleOwner : BleOwnerToken)
  | mouseWheel (sequence : UInt32) (vertical horizontal : Int) (bleOwner : BleOwnerToken)
deriving DecidableEq, Repr

structure BleInputSchedulerConfig where
  fallbackPeriodUs : Nat := 30000
  minimumPeriodUs : Nat := 7500
  maximumPeriodUs : Nat := 200000
  maximumRetryBackoffUs : Nat := 200000
  maximumRetryShift : UInt8 := 2
  maximumConsecutiveHid : UInt8 := 3
  wheelChunkLimit : Int := 127
deriving DecidableEq, Repr

/-- What the constructor makes of a configuration. -/
structure ClampedConfig extends BleInputSchedulerConfig where
  minimumPeriod_pos : 0 < minimumPeriodUs
  fallbackPeriod_ge : minimumPeriodUs ≤ fallbackPeriodUs
  maximumConsecutive_pos : 0 < maximumConsecutiveHid.toNat
  wheelChunk_pos : 0 < wheelChunkLimit
  wheelChunk_le : wheelChunkLimit ≤ 127

namespace BleInputSchedulerConfig

def clampedMinimum (config : BleInputSchedulerConfig) : Nat :=
  if config.minimumPeriodUs = 0 then 1 else config.minimumPeriodUs

def clampedMaximum (config : BleInputSchedulerConfig) : Nat :=
  if config.maximumPeriodUs < config.clampedMinimum then config.clampedMinimum else config.maximumPeriodUs

/-- `std::clamp` of a period. -/
def clampPeriod (value low high : Nat) : Nat :=
  if value < low then low else if high < value then high else value

theorem le_clampPeriod {low high : Nat} (h : low ≤ high) (value : Nat) :
    low ≤ clampPeriod value low high := by
  unfold clampPeriod
  split
  · exact Nat.le_refl _
  · split
    · exact h
    · omega

theorem clampedMinimum_le (config : BleInputSchedulerConfig) :
    config.clampedMinimum ≤ config.clampedMaximum := by
  unfold clampedMaximum
  split
  · exact Nat.le_refl _
  · omega

/-- The constructor. -/
def clamped (config : BleInputSchedulerConfig) : ClampedConfig where
  fallbackPeriodUs := clampPeriod config.fallbackPeriodUs config.clampedMinimum config.clampedMaximum
  minimumPeriodUs := config.clampedMinimum
  maximumPeriodUs := config.clampedMaximum
  maximumRetryBackoffUs :=
    if config.maximumRetryBackoffUs < config.clampedMinimum then config.clampedMinimum else
      config.maximumRetryBackoffUs
  maximumRetryShift := if config.maximumRetryShift > 20 then 20 else config.maximumRetryShift
  maximumConsecutiveHid := if config.maximumConsecutiveHid = 0 then 1 else config.maximumConsecutiveHid
  wheelChunkLimit := clamp config.wheelChunkLimit 1 127
  minimumPeriod_pos := by
    unfold clampedMinimum
    split <;> omega
  fallbackPeriod_ge := le_clampPeriod config.clampedMinimum_le _
  maximumConsecutive_pos := by
    split
    · decide
    · rename_i h
      exact Nat.pos_of_ne_zero fun hzero => h (UInt8.toNat_inj.1 hzero)
  wheelChunk_pos := by
    unfold clamp
    split
    · decide
    · split <;> omega
  wheelChunk_le := by
    unfold clamp
    split
    · decide
    · split <;> omega

end BleInputSchedulerConfig

structure BleInputScheduler where
  config : ClampedConfig
  deliveryPeriodUs : Nat
  nextAttemptUs : Nat := 0
  lastAttemptUs : Nat := 0
  retryStreak : Nat := 0
  consecutiveHid : Nat := 0
  hasAttempted : Bool := false
  stateResyncRequired : Bool := false

/-- `release_must_keep_order`. -/
def releaseMustKeepOrder (reportClass : HidReportClass) : Bool :=
  reportClass = .keyboardRelease || reportClass = .keyboardAllReleased || reportClass =
    .appCommandStatefulRelease

namespace BleInputScheduler

def start (config : BleInputSchedulerConfig) : BleInputScheduler where
  config := config.clamped
  deliveryPeriodUs := config.clamped.fallbackPeriodUs

variable (s : BleInputScheduler)

/-- `retry_delay_us`. -/
def retryDelayUs : Nat :=
  let shift := if s.retryStreak = 0 then 0 else min (s.retryStreak - 1) s.config.maximumRetryShift.toNat
  let maximum := s.config.maximumRetryBackoffUs
  if s.deliveryPeriodUs > maximum >>> shift then maximum else min (s.deliveryPeriodUs <<< shift) maximum

def setNextAttempt (nowUs delayUs : Nat) : BleInputScheduler :=
  { s with nextAttemptUs := saturatingAdd nowUs delayUs }

def noteRetry : BleInputScheduler :=
  { s with retryStreak := if s.retryStreak < u32Max then s.retryStreak + 1 else s.retryStreak }

/-- `++consecutive_hid_`, up to 255. -/
def noteHid : BleInputScheduler :=
  { s with consecutiveHid := if s.consecutiveHid < 255 then s.consecutiveHid + 1 else s.consecutiveHid }

/-- The period of a connection interval. -/
def connectionPeriodUs (intervalUnits : UInt16) (valid : Bool) : Nat :=
  if valid = true ∧ intervalUnits ≠ 0 then
    BleInputSchedulerConfig.clampPeriod (intervalUnits.toNat * 1250) s.config.minimumPeriodUs
      s.config.maximumPeriodUs
  else s.config.fallbackPeriodUs

/-- A new period, from the last attempt on. -/
def rebased (periodUs : Nat) : BleInputScheduler :=
  let s := { s with deliveryPeriodUs := periodUs }
  let deadline :=
    saturatingAdd s.lastAttemptUs (if s.retryStreak = 0 then s.deliveryPeriodUs else s.retryDelayUs)
  { s with nextAttemptUs := if s.retryStreak = 0 then deadline else max s.nextAttemptUs deadline }

/-- `set_connection_interval`. -/
def setConnectionInterval (intervalUnits : UInt16) (valid : Bool) : BleInputScheduler :=
  if s.connectionPeriodUs intervalUnits valid = s.deliveryPeriodUs then s
  else if s.hasAttempted = true then s.rebased (s.connectionPeriodUs intervalUnits valid)
  else { s with deliveryPeriodUs := s.connectionPeriodUs intervalUnits valid }

/-- `reset_delivery_clock`. -/
def resetDeliveryClock : BleInputScheduler :=
  { s with nextAttemptUs := 0, lastAttemptUs := 0, retryStreak := 0, consecutiveHid := 0, hasAttempted := false }

/-- `mark_disconnected`. -/
def markDisconnected : BleInputScheduler := { s with stateResyncRequired := true }.resetDeliveryClock

/-- `take_state_resync_required`. -/
def takeStateResyncRequired : Bool × BleInputScheduler :=
  (s.stateResyncRequired, { s with stateResyncRequired := false })

/-- `should_send_hid`. -/
def shouldSendHid (report : QueuedHidReport) (hasWheelReport : Bool) : Bool :=
  !hasWheelReport || releaseMustKeepOrder report.reportClass ||
    decide (s.consecutiveHid < s.config.maximumConsecutiveHid.toNat)

end BleInputScheduler

/-- `scheduled_hid`. -/
def scheduledHid (report : QueuedHidReport) : BleScheduledReport :=
  .hid report.sequence report.reportId report.data report.reportClass report.bleOwner

/-- `scheduled_wheel`. -/
def scheduledWheel (config : ClampedConfig) (report : QueuedMouseWheel) : BleScheduledReport :=
  .mouseWheel report.sequence (clamp report.vertical (-config.wheelChunkLimit) config.wheelChunkLimit)
    (clamp report.horizontal (-config.wheelChunkLimit) config.wheelChunkLimit) report.bleOwner

/-- The scheduler and its two queues. -/
structure InputDelivery where
  scheduler : BleInputScheduler
  hidReports : HidReportQueue := .start
  wheelReports : MouseWheelQueue := .start

namespace InputDelivery

def start (config : BleInputSchedulerConfig) : InputDelivery where
  scheduler := .start config

/-- The report the next attempt offers: `should_send_hid`, then `scheduled_hid` or `scheduled_wheel`. -/
def offered (d : InputDelivery) : Option BleScheduledReport :=
  let wheel := d.wheelReports.reports.front?
  match d.hidReports.reports.front?.filter fun report => d.scheduler.shouldSendHid report wheel.isSome with
  | some report => some (scheduledHid report)
  | none => wheel.map (scheduledWheel d.scheduler.config)

/-- The head of the report's queue was sent. -/
def accept (d : InputDelivery) : BleScheduledReport → InputDelivery
  | .hid sequence _ _ _ _ =>
    let (popped, hidReports) := d.hidReports.popIfSequence sequence
    { d with hidReports, scheduler := if popped then d.scheduler.noteHid else d.scheduler }
  | .mouseWheel sequence vertical horizontal _ =>
    let (consumed, wheelReports) := d.wheelReports.consumeIfSequence sequence vertical horizontal
    { d with wheelReports, scheduler := if consumed then { d.scheduler with
      consecutiveHid := 0 } else d.scheduler }

/-- The head of the report's queue is given up; of a wheel entry, all of it. -/
def drop (d : InputDelivery) : BleScheduledReport → InputDelivery
  | .hid sequence _ _ _ _ =>
    let (popped, hidReports) := d.hidReports.popIfSequence sequence
    { d with hidReports, scheduler := if popped then d.scheduler.noteHid else d.scheduler }
  | .mouseWheel sequence _ _ _ =>
    let (popped, wheelReports) := d.wheelReports.popIfSequence sequence
    { d with wheelReports, scheduler := if popped then { d.scheduler with
      consecutiveHid := 0 } else d.scheduler }

/-- `has_attempted_ = true` and `last_attempt_us_ = now_us`. -/
def stamped (d : InputDelivery) (nowUs : Nat) : InputDelivery :=
  { d with scheduler := { d.scheduler with hasAttempted := true, lastAttemptUs := nowUs } }

/-- `retry_streak_ = 0` and the next attempt a period later. -/
def paced (d : InputDelivery) (nowUs : Nat) : InputDelivery :=
  { d with scheduler := { d.scheduler with
    retryStreak := 0 }.setNextAttempt nowUs d.scheduler.deliveryPeriodUs }

/-- `note_retry()` and the next attempt after the back-off. -/
def backedOff (d : InputDelivery) (nowUs : Nat) : InputDelivery :=
  { d with scheduler := d.scheduler.noteRetry.setNextAttempt nowUs d.scheduler.noteRetry.retryDelayUs }

/-- `poll`, and the report the callback saw. -/
def poll (d : InputDelivery) (nowUs : Nat) (transmit : BleScheduledReport → BleInputTxResult) :
    (BleInputPollResult × Option BleScheduledReport) × InputDelivery :=
  match d.offered with
  | none => ((.idle, none), d)
  | some report =>
    if d.scheduler.hasAttempted = true ∧ nowUs < d.scheduler.nextAttemptUs then ((.throttled, none), d)
    else
      let d := d.stamped nowUs
      match transmit report with
      | .accepted => ((.accepted, some report), (d.accept report).paced nowUs)
      | .droppedUnsupported => ((.droppedUnsupported, some report), (d.drop report).paced nowUs)
      | .retryableNoBuffer => ((.retryable, some report), d.backedOff nowUs)
      | .retryableBusy => ((.retryable, some report), d.backedOff nowUs)
      | .disconnected =>
        ((.disconnected, some report),
          { d with scheduler := { d.scheduler with stateResyncRequired := true } }.backedOff nowUs)
      | .fatal => ((.fatal, some report), d.backedOff nowUs)

end InputDelivery

/-- What happens to a scheduler and its queues. -/
inductive DeliveryEvent where
  | pushClassified (report : HidReport) (reportClass : HidReportClass)
  | push (report : HidReport) (reservedFreeSlots : Nat)
  | pushWheel (movement : WheelMovement)
  | setConnectionInterval (intervalUnits : UInt16) (valid : Bool)
  | resetDeliveryClock
  | markDisconnected
  | takeStateResyncRequired
  | poll (nowUs : UInt64) (result : BleInputTxResult)

inductive DeliveryAnswer where
  | pushed (result : HidQueuePushResult)
  | wheelPushed (result : WheelPushResult)
  | resync (required : Bool)
  | polled (result : BleInputPollResult) (offered : Option BleScheduledReport)
  | done
deriving DecidableEq, Repr

namespace InputDelivery

def step (d : InputDelivery) : DeliveryEvent → DeliveryAnswer × InputDelivery
  | .pushClassified report reportClass =>
    let (result, hidReports) := d.hidReports.pushClassified report reportClass
    (.pushed result, { d with hidReports })
  | .push report reservedFreeSlots =>
    let (result, hidReports) := d.hidReports.push report reservedFreeSlots
    (.pushed result, { d with hidReports })
  | .pushWheel movement =>
    let (result, wheelReports) := d.wheelReports.push movement
    (.wheelPushed result, { d with wheelReports })
  | .setConnectionInterval intervalUnits valid =>
    (.done, { d with scheduler := d.scheduler.setConnectionInterval intervalUnits valid })
  | .resetDeliveryClock => (.done, { d with scheduler := d.scheduler.resetDeliveryClock })
  | .markDisconnected => (.done, { d with scheduler := d.scheduler.markDisconnected })
  | .takeStateResyncRequired =>
    let (required, scheduler) := d.scheduler.takeStateResyncRequired
    (.resync required, { d with scheduler })
  | .poll nowUs result =>
    let (shown, d) := d.poll nowUs.toNat fun _ => result
    (.polled shown.1 shown.2, d)

end InputDelivery

end CodexKeyboard.Keyboard
