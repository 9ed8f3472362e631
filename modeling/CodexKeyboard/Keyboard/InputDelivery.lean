import CodexKeyboard.Keyboard.InputScheduler
/-!
# Delivery over BLE

What the host gets of what was pushed, over every run of the scheduler: reports in the order they
were pushed, the movement of every wheel entry in chunks that add up to it, attempts a period apart,
and a wheel chunk after every few reports. A refused report keeps its place; it is offered again
next unless a push to the other queue or a reset lets that queue go first.

| here | there |
| --- | --- |
| `Attempt` | what a `poll` that reaches the callback does (ble_input_scheduler.cpp:124-210) |
| `hidQueued`, `hidTaken`, `wheelRuns`, `chunksTaken` | read off the arguments and results of `push` and `poll` |
| `Clocked` | `next_attempt_us_` against `last_attempt_us_` |
| `Delivered` | what holds of every run |
-/

namespace CodexKeyboard.Keyboard

open Lib

namespace BleScheduledReport

def isHid : BleScheduledReport → Bool
  | hid .. => true
  | mouseWheel .. => false

/-- The same entry of the same queue; of a wheel entry, maybe another chunk. -/
def SameHead : BleScheduledReport → BleScheduledReport → Prop
  | mouseWheel sequence _ _ bleOwner, mouseWheel sequence' _ _ bleOwner' =>
    sequence' = sequence ∧ bleOwner' = bleOwner
  | report, report' => report' = report

end BleScheduledReport

@[simp] theorem isHid_scheduledHid (report : QueuedHidReport) : (scheduledHid report).isHid = true := rfl

@[simp] theorem isHid_scheduledWheel (config : ClampedConfig) (report : QueuedMouseWheel) :
    (scheduledWheel config report).isHid = false := rfl

namespace HidReportQueue

theorem popIfSequence_head {queue : HidReportQueue} {head : QueuedHidReport} {rest : List QueuedHidReport}
    (h : queue.waiting = head :: rest) :
    (queue.popIfSequence head.sequence).1 = true ∧
      (queue.popIfSequence head.sequence).2.waiting = rest := by
  have hfront : queue.reports.front? = some head := by
    rw [Ring.front?_eq]
    exact congrArg List.head? h
  simp only [popIfSequence, hfront, ne_eq, not_true_eq_false, if_false, true_and]
  rw [waiting, Ring.toList_pop]
  exact congrArg (List.drop 1) h

/-- What a push does to the queue: nothing, or one report more. -/
theorem pushWithLimit_cases (queue : HidReportQueue) (report : HidReport)
    (reportClass : HidReportClass) {usableCapacity : Nat}
    (h : usableCapacity ≤ hidReportQueueCapacity) (coalesce : Bool) :
    (queue.pushWithLimit report reportClass usableCapacity coalesce).1.status ≠ .queued ∧
      (queue.pushWithLimit report reportClass usableCapacity coalesce).2 = queue ∨
    queue.pushWithLimit report reportClass usableCapacity coalesce =
        (⟨.queued, queue.nextSequence⟩, queue.append report reportClass) ∧
      (queue.append report reportClass).waiting =
        queue.waiting ++ [{ report with sequence := queue.nextSequence, reportClass }] := by
  unfold pushWithLimit
  split
  · exact .inl ⟨by simp, rfl⟩
  · split
    · exact .inl ⟨by simp, rfl⟩
    · split
      · exact .inl ⟨by simp, rfl⟩
      · exact .inr ⟨rfl, waiting_append (by omega) report reportClass⟩

end HidReportQueue

namespace InputDelivery

/-! ## One attempt -/

theorem offered_cases {d : InputDelivery} {report : BleScheduledReport} (h : d.offered = some report) :
    (∃ head rest, d.hidReports.waiting = head :: rest ∧ report = scheduledHid head ∧
      d.scheduler.shouldSendHid head d.wheelReports.reports.front?.isSome = true) ∨
    ∃ head rest, d.wheelReports.waiting = head :: rest ∧ report = scheduledWheel d.scheduler.config head ∧
      ∀ first, d.hidReports.reports.front? = some first → d.scheduler.shouldSendHid first true = false := by
  unfold offered at h
  dsimp only at h
  split at h
  · rename_i head hhead
    obtain ⟨hfront, hsend⟩ := Option.filter_eq_some_iff.1 hhead
    rw [Ring.front?_eq] at hfront
    obtain ⟨rest, hrest⟩ := List.head?_eq_some_iff.1 hfront
    cases h
    exact .inl ⟨head, rest, hrest, rfl, hsend⟩
  · rename_i hnone
    obtain ⟨head, hfront, rfl⟩ := Option.map_eq_some_iff.1 h
    rw [hfront, Option.isSome_some] at hnone
    have hrefused :
      ∀ first, d.hidReports.reports.front? = some first → d.scheduler.shouldSendHid first true = false := by
      intro first hfirst
      rw [hfirst] at hnone
      apply eq_false_of_ne_true
      intro hsend
      rw [Option.filter, if_pos hsend] at hnone
      cases hnone
    rw [Ring.front?_eq] at hfront
    obtain ⟨rest, hrest⟩ := List.head?_eq_some_iff.1 hfront
    exact .inr ⟨head, rest, hrest, rfl, hrefused⟩

theorem offered_hid {d : InputDelivery} {head : QueuedHidReport} {rest : List QueuedHidReport}
    (h : d.hidReports.waiting = head :: rest)
    (hsend : d.scheduler.shouldSendHid head d.wheelReports.reports.front?.isSome = true) :
    d.offered = some (scheduledHid head) := by
  have hfront : d.hidReports.reports.front? = some head := by
    rw [Ring.front?_eq]
    exact congrArg List.head? h
  simp only [offered, hfront, Option.filter, hsend, if_true]

theorem offered_wheel {d : InputDelivery} {head : QueuedMouseWheel} {rest : List QueuedMouseWheel}
    (h : d.wheelReports.waiting = head :: rest)
    (hrefused : ∀ first, d.hidReports.reports.front? = some first →
      d.scheduler.shouldSendHid first true = false) :
    d.offered = some (scheduledWheel d.scheduler.config head) := by
  have hfront : d.wheelReports.reports.front? = some head := by
    rw [Ring.front?_eq]
    exact congrArg List.head? h
  cases hhid : d.hidReports.reports.front? with
  | none => simp only [offered, hhid, hfront, Option.filter, Option.map_some]
  | some first =>
    simp only [offered, hhid, hfront, Option.filter, Option.isSome_some,
      hrefused first hhid, Bool.false_eq_true,
      if_false, Option.map_some]

/-- The shortest time between two attempts. -/
def shortestDelayUs (s : BleInputScheduler) : Nat := min s.deliveryPeriodUs s.config.maximumRetryBackoffUs

/-- What the scheduler keeps after an attempt at `nowUs`. -/
structure Ticked (s s' : BleInputScheduler) (nowUs : Nat) : Prop where
  config : s'.config = s.config
  period : s'.deliveryPeriodUs = s.deliveryPeriodUs
  attempted : s'.hasAttempted = true
  last : s'.lastAttemptUs = nowUs
  next : ∃ delayUs, shortestDelayUs s ≤ delayUs ∧ s'.nextAttemptUs = saturatingAdd nowUs delayUs

/-- What became of the report that a poll offered. -/
inductive Attempt (d : InputDelivery) (report : BleScheduledReport) :
    BleInputPollResult → InputDelivery → Prop where
  | hid {result : BleInputPollResult} {head : QueuedHidReport} {rest : List QueuedHidReport}
    {d' : InputDelivery}
      (hresult : result = .accepted ∨ result = .droppedUnsupported) (hreport : report = scheduledHid head)
      (hbefore : d.hidReports.waiting = head :: rest) (hafter : d'.hidReports.waiting = rest)
      (hwheel : d'.wheelReports = d.wheelReports)
      (hsend : d.scheduler.shouldSendHid head d.wheelReports.reports.front?.isSome = true)
      (hcount : d'.scheduler.consecutiveHid = d.scheduler.noteHid.consecutiveHid) :
        Attempt d report result d'
  | chunk {head : QueuedMouseWheel} {rest : List QueuedMouseWheel} {d' : InputDelivery}
      (hreport : report = scheduledWheel d.scheduler.config head)
      (hbefore : d.wheelReports.waiting = head :: rest)
      (hafter : d'.wheelReports.waiting =
        if head.vertical - clamp head.vertical (-d.scheduler.config.wheelChunkLimit)
          d.scheduler.config.wheelChunkLimit = 0 ∧
          head.horizontal - clamp head.horizontal (-d.scheduler.config.wheelChunkLimit)
            d.scheduler.config.wheelChunkLimit = 0
        then rest
        else MouseWheelQueue.remainder head
          (clamp head.vertical (-d.scheduler.config.wheelChunkLimit) d.scheduler.config.wheelChunkLimit)
          (clamp head.horizontal
            (-d.scheduler.config.wheelChunkLimit) d.scheduler.config.wheelChunkLimit) :: rest)
      (hhid : d'.hidReports = d.hidReports) : Attempt d report .accepted d'
  | wheelDropped {head : QueuedMouseWheel} {rest : List QueuedMouseWheel} {d' : InputDelivery}
      (hreport : report = scheduledWheel d.scheduler.config head)
      (hbefore : d.wheelReports.waiting = head :: rest)
      (hafter : d'.wheelReports.waiting = rest) (hhid : d'.hidReports = d.hidReports) :
      Attempt d report .droppedUnsupported d'
  | refused {result : BleInputPollResult} {d' : InputDelivery}
      (hresult : result = .retryable ∨ result = .disconnected ∨ result = .fatal)
      (hhid : d'.hidReports = d.hidReports)
      (hwheel : d'.wheelReports = d.wheelReports)
      (hcount : d'.scheduler.consecutiveHid = d.scheduler.consecutiveHid) :
      Attempt d report result d'

theorem attempt_accept {d : InputDelivery} {report : BleScheduledReport} (h : d.offered = some report) :
    Attempt d report .accepted (d.accept report) := by
  rcases offered_cases h with ⟨head, rest, hbefore, rfl, hsend⟩ | ⟨head, rest, hbefore, rfl, -⟩
  · have hpop := HidReportQueue.popIfSequence_head hbefore
    refine .hid (.inl rfl) rfl hbefore hpop.2 rfl hsend ?_
    simp only [accept, scheduledHid, hpop.1, if_true]
  · have hpos := d.scheduler.config.wheelChunk_pos
    have hconsume := MouseWheelQueue.consumeIfSequence_head hbefore
      (MouseWheelQueue.validConsumption_clamp hpos head.vertical)
      (MouseWheelQueue.validConsumption_clamp hpos head.horizontal)
    exact .chunk rfl hbefore hconsume.2 rfl

theorem attempt_drop {d : InputDelivery} {report : BleScheduledReport} (h : d.offered = some report) :
    Attempt d report .droppedUnsupported (d.drop report) := by
  rcases offered_cases h with ⟨head, rest, hbefore, rfl, hsend⟩ | ⟨head, rest, hbefore, rfl, -⟩
  · have hpop := HidReportQueue.popIfSequence_head hbefore
    refine .hid (.inr rfl) rfl hbefore hpop.2 rfl hsend ?_
    simp only [drop, scheduledHid, hpop.1, if_true]
  · exact .wheelDropped rfl hbefore (MouseWheelQueue.popIfSequence_head hbefore).2 rfl

theorem Attempt.congr_before {d d₁ d' : InputDelivery} {report : BleScheduledReport}
    {result : BleInputPollResult}
    (h : Attempt d₁ report result d') (hhid : d₁.hidReports = d.hidReports)
    (hwheel : d₁.wheelReports = d.wheelReports)
    (hconfig : d₁.scheduler.config = d.scheduler.config)
    (hcount : d₁.scheduler.consecutiveHid = d.scheduler.consecutiveHid) :
    Attempt d report result d' := by
  cases h with
  | hid hresult hreport hbefore hafter hkept hsend hcount' =>
    refine .hid hresult hreport (by rw [← hhid]; exact hbefore) hafter (hkept.trans hwheel) ?_ ?_
    · rw [BleInputScheduler.shouldSendHid, ← hconfig, ← hcount, ← hwheel]
      exact hsend
    · rw [hcount', BleInputScheduler.noteHid, BleInputScheduler.noteHid, hcount]
  | chunk hreport hbefore hafter hkept =>
    exact .chunk (by rw [← hconfig]; exact hreport) (by rw [← hwheel]; exact hbefore)
      (by rw [← hconfig]; exact hafter)
      (hkept.trans hhid)
  | wheelDropped hreport hbefore hafter hkept =>
    exact .wheelDropped (by rw [← hconfig]; exact hreport)
      (by rw [← hwheel]; exact hbefore) hafter (hkept.trans hhid)
  | refused hresult hkept hkeptWheel hcount' =>
    exact .refused hresult (hkept.trans hhid) (hkeptWheel.trans hwheel) (hcount'.trans hcount)

theorem Attempt.congr_after {d d' d₁ : InputDelivery} {report : BleScheduledReport}
    {result : BleInputPollResult}
    (h : Attempt d report result d') (hhid : d₁.hidReports = d'.hidReports)
    (hwheel : d₁.wheelReports = d'.wheelReports)
    (hcount : d₁.scheduler.consecutiveHid = d'.scheduler.consecutiveHid) : Attempt d report result d₁ := by
  cases h with
  | hid hresult hreport hbefore hafter hkept hsend hcount' =>
    exact .hid hresult hreport hbefore (by rw [hhid]; exact hafter)
      (hwheel.trans hkept) hsend (hcount.trans hcount')
  | chunk hreport hbefore hafter hkept =>
    exact .chunk hreport hbefore (by rw [hwheel]; exact hafter) (hhid.trans hkept)
  | wheelDropped hreport hbefore hafter hkept =>
    exact .wheelDropped hreport hbefore (by rw [hwheel]; exact hafter) (hhid.trans hkept)
  | refused hresult hkept hkeptWheel hcount' =>
    exact .refused hresult (hhid.trans hkept) (hwheel.trans hkeptWheel) (hcount.trans hcount')

/-- The back-off is never shorter than the period, up to its maximum. -/
theorem shortestDelayUs_le_retryDelayUs (s : BleInputScheduler) : shortestDelayUs s ≤ s.retryDelayUs := by
  unfold shortestDelayUs BleInputScheduler.retryDelayUs
  dsimp only
  generalize (if s.retryStreak = 0 then 0 else
    min (s.retryStreak - 1) s.config.maximumRetryShift.toNat) = shift
  by_cases hlong : s.deliveryPeriodUs > s.config.maximumRetryBackoffUs >>> shift
  · rw [if_pos hlong]
    exact Nat.min_le_right _ _
  · rw [if_neg hlong]
    have hshift : s.deliveryPeriodUs ≤ s.deliveryPeriodUs <<< shift := by
      rw [Nat.shiftLeft_eq]
      exact Nat.le_mul_of_pos_right _ (Nat.two_pow_pos shift)
    omega

theorem ticked_paced {d d₁ : InputDelivery} {nowUs : Nat}
    (hconfig : d₁.scheduler.config = d.scheduler.config)
    (hperiod : d₁.scheduler.deliveryPeriodUs = d.scheduler.deliveryPeriodUs)
    (hattempted : d₁.scheduler.hasAttempted = true)
    (hlast : d₁.scheduler.lastAttemptUs = nowUs) : Ticked d.scheduler (d₁.paced nowUs).scheduler nowUs :=
  ⟨hconfig, hperiod, hattempted, hlast, d.scheduler.deliveryPeriodUs,
    Nat.min_le_left _ _, by rw [← hperiod]; rfl⟩

theorem ticked_backedOff {d d₁ : InputDelivery} {nowUs : Nat}
    (hconfig : d₁.scheduler.config = d.scheduler.config)
    (hperiod : d₁.scheduler.deliveryPeriodUs = d.scheduler.deliveryPeriodUs)
    (hattempted : d₁.scheduler.hasAttempted = true)
    (hlast : d₁.scheduler.lastAttemptUs = nowUs) :
    Ticked d.scheduler (d₁.backedOff nowUs).scheduler nowUs := by
  refine ⟨hconfig, hperiod, hattempted, hlast, d₁.scheduler.noteRetry.retryDelayUs, ?_, rfl⟩
  have hle := shortestDelayUs_le_retryDelayUs d₁.scheduler.noteRetry
  have hsame : shortestDelayUs d₁.scheduler.noteRetry = shortestDelayUs d.scheduler := by
    change min d₁.scheduler.deliveryPeriodUs d₁.scheduler.config.maximumRetryBackoffUs = _
    rw [hperiod, hconfig, shortestDelayUs]
  rw [← hsame]
  exact hle

theorem scheduler_accept (d : InputDelivery) (report : BleScheduledReport) :
    ∃ count, (d.accept report).scheduler = { d.scheduler with consecutiveHid := count } := by
  cases report with
  | hid =>
    simp only [accept]
    split
    · exact ⟨_, rfl⟩
    · exact ⟨d.scheduler.consecutiveHid, rfl⟩
  | mouseWheel =>
    simp only [accept]
    split
    · exact ⟨_, rfl⟩
    · exact ⟨d.scheduler.consecutiveHid, rfl⟩

theorem scheduler_drop (d : InputDelivery) (report : BleScheduledReport) :
    ∃ count, (d.drop report).scheduler = { d.scheduler with consecutiveHid := count } := by
  cases report with
  | hid =>
    simp only [drop]
    split
    · exact ⟨_, rfl⟩
    · exact ⟨d.scheduler.consecutiveHid, rfl⟩
  | mouseWheel =>
    simp only [drop]
    split
    · exact ⟨_, rfl⟩
    · exact ⟨d.scheduler.consecutiveHid, rfl⟩

/-- What a poll does: nothing, or one attempt when it is due. -/
inductive PollEffect (d : InputDelivery) (nowUs : Nat) :
    (BleInputPollResult × Option BleScheduledReport) × InputDelivery → Prop where
  | still {result : BleInputPollResult} (hresult : result = .idle ∨ result = .throttled) :
    PollEffect d nowUs ((result, none), d)
  | attempt {result : BleInputPollResult} {report : BleScheduledReport} {d' : InputDelivery}
    (hoffered : d.offered = some report)
      (hdue : d.scheduler.hasAttempted = true → d.scheduler.nextAttemptUs ≤ nowUs)
      (hattempt : Attempt d report result d')
      (hticked : Ticked d.scheduler d'.scheduler nowUs) : PollEffect d nowUs ((result, some report), d')

theorem poll_effect (d : InputDelivery) (nowUs : Nat) (transmit : BleScheduledReport → BleInputTxResult) :
    PollEffect d nowUs (d.poll nowUs transmit) := by
  unfold poll
  cases hoffered : d.offered with
  | none => exact .still (.inl rfl)
  | some report =>
    dsimp only
    by_cases hthrottled : d.scheduler.hasAttempted = true ∧ nowUs < d.scheduler.nextAttemptUs
    · rw [if_pos hthrottled]
      exact .still (.inr rfl)
    rw [if_neg hthrottled]
    have hdue : d.scheduler.hasAttempted = true → d.scheduler.nextAttemptUs ≤ nowUs := fun hattempted =>
      Nat.le_of_not_lt fun hlt => hthrottled ⟨hattempted, hlt⟩
    cases transmit report with
    | accepted =>
      have hstamped : (d.stamped nowUs).offered = some report := hoffered
      have hattempt : Attempt d report .accepted ((d.stamped nowUs).accept report) :=
        (attempt_accept hstamped).congr_before rfl rfl rfl rfl
      obtain ⟨count, hcount⟩ := scheduler_accept (d.stamped nowUs) report
      refine .attempt hoffered hdue (hattempt.congr_after rfl rfl rfl) ?_
      exact ticked_paced (by rw [hcount]; rfl) (by rw [hcount]; rfl) (by rw [hcount]; rfl)
        (by rw [hcount]; rfl)
    | droppedUnsupported =>
      have hstamped : (d.stamped nowUs).offered = some report := hoffered
      have hattempt : Attempt d report .droppedUnsupported ((d.stamped nowUs).drop report) :=
        (attempt_drop hstamped).congr_before rfl rfl rfl rfl
      obtain ⟨count, hcount⟩ := scheduler_drop (d.stamped nowUs) report
      refine .attempt hoffered hdue (hattempt.congr_after rfl rfl rfl) ?_
      exact ticked_paced (by rw [hcount]; rfl) (by rw [hcount]; rfl) (by rw [hcount]; rfl)
        (by rw [hcount]; rfl)
    | retryableNoBuffer =>
      exact .attempt hoffered hdue (.refused (.inl rfl) rfl rfl rfl) (ticked_backedOff rfl rfl rfl rfl)
    | retryableBusy =>
      exact .attempt hoffered hdue (.refused (.inl rfl) rfl rfl rfl) (ticked_backedOff rfl rfl rfl rfl)
    | disconnected =>
      exact .attempt hoffered hdue (.refused (.inr (.inl rfl)) rfl rfl rfl)
        (ticked_backedOff rfl rfl rfl rfl)
    | fatal =>
      exact .attempt hoffered hdue (.refused (.inr (.inr rfl)) rfl rfl rfl)
        (ticked_backedOff rfl rfl rfl rfl)

/-! ## What a run shows -/

/-- An event and its answer. -/
abbrev Shown := DeliveryEvent × DeliveryAnswer

/-- The report that a push queued. -/
def hidQueuedBy : Shown → Option QueuedHidReport
  | (.pushClassified report reportClass, .pushed result) =>
    if result.status = .queued then some { report with sequence := result.sequence, reportClass } else none
  | (.push report _, .pushed result) =>
    if result.status = .queued then
      some { report with sequence := result.sequence, reportClass := .appCommand } else none
  | _ => none

/-- The HID report that a poll accepted or dropped. -/
def hidTakenBy : Shown → Option (BleScheduledReport × BleInputPollResult)
  | (_, .polled result (some report)) =>
    if report.isHid = true ∧ (result = .accepted ∨ result = .droppedUnsupported) then
      some (report, result) else none
  | _ => none

def hidQueued (seen : List Shown) : List QueuedHidReport := seen.filterMap hidQueuedBy

def hidTaken (seen : List Shown) : List (BleScheduledReport × BleInputPollResult) :=
  seen.filterMap hidTakenBy

/-- A run of movement in one direction, as it was pushed; it is `exact` if its first movement is
within the limit of the accumulation and no saturation was reported. -/
structure WheelRun where
  sequence : UInt32
  vertical : Int
  horizontal : Int
  exact : Bool
deriving DecidableEq, Repr

/-- The first movement of a run. -/
def WheelRun.opened (movement : WheelMovement) (sequence : UInt32) : WheelRun where
  sequence := sequence
  vertical := movement.vertical
  horizontal := movement.horizontal
  exact := decide (-mouseWheelAccumulationLimit ≤ movement.vertical ∧
    movement.vertical ≤ mouseWheelAccumulationLimit) &&
    decide (-mouseWheelAccumulationLimit ≤ movement.horizontal ∧
      movement.horizontal ≤ mouseWheelAccumulationLimit)

/-- A movement that is added to a run. -/
def WheelRun.joined (movement : WheelMovement) (saturated : Bool) (run : WheelRun) : WheelRun :=
  { run with
    vertical := run.vertical + movement.vertical
    horizontal := run.horizontal + movement.horizontal
    exact := run.exact && !saturated }

def noteWheel (runs : List WheelRun) : Shown → List WheelRun
  | (.pushWheel movement, .wheelPushed result) =>
    if result.taken = false then runs
    else if result.coalesced = true then
      runs.dropLast ++ (runs.getLast?.map (WheelRun.joined movement result.saturated)).toList
    else runs ++ [.opened movement (result.sequence.getD 0)]
  | _ => runs

/-- The runs of movement that were pushed. -/
def wheelRuns (seen : List Shown) : List WheelRun := seen.foldl noteWheel []

/-- What a poll took from the head of the wheel queue: a chunk that was sent, or the whole entry. -/
structure Chunk where
  sequence : UInt32
  vertical : Int
  horizontal : Int
  dropped : Bool
deriving DecidableEq, Repr

def chunkBy : Shown → Option Chunk
  | (_, .polled .accepted (some (.mouseWheel sequence vertical horizontal _))) =>
    some ⟨sequence, vertical, horizontal, false⟩
  | (_, .polled .droppedUnsupported (some (.mouseWheel sequence vertical horizontal _))) =>
    some ⟨sequence, vertical, horizontal, true⟩
  | _ => none

def chunksTaken (seen : List Shown) : List Chunk := seen.filterMap chunkBy

/-- The movement of some chunks. -/
def movementOf (axis : Chunk → Int) : List Chunk → Int
  | [] => 0
  | chunk :: chunks => axis chunk + movementOf axis chunks

theorem movementOf_append (axis : Chunk → Int) (chunks chunks' : List Chunk) :
    movementOf axis (chunks ++ chunks') = movementOf axis chunks + movementOf axis chunks' := by
  induction chunks with
  | nil => simp [movementOf]
  | cons chunk chunks ih =>
    rw [List.cons_append, movementOf, movementOf, ih]
    omega

/-- The chunks of a run that is through: without a drop they add up to what was pushed. -/
structure Settled (run : WheelRun) (chunks : List Chunk) : Prop where
  sequence : ∀ chunk ∈ chunks, chunk.sequence = run.sequence
  sums : run.exact = true → (∀ chunk ∈ chunks, chunk.dropped = false) →
    movementOf Chunk.vertical chunks = run.vertical ∧ movementOf Chunk.horizontal chunks = run.horizontal

/-- The chunks of a run that waits: they and what waits add up to what was pushed. -/
structure Underway (chunks : List Chunk) (run : WheelRun) (report : QueuedMouseWheel) : Prop where
  entry : report.sequence = run.sequence
  sequence : ∀ chunk ∈ chunks, chunk.sequence = run.sequence ∧ chunk.dropped = false
  sums : run.exact = true → movementOf Chunk.vertical chunks + report.vertical = run.vertical ∧
    movementOf Chunk.horizontal chunks + report.horizontal = run.horizontal

/-- The runs that wait, the first of them with its chunks so far. -/
inductive Waiting : List WheelRun → List Chunk → List QueuedMouseWheel → Prop where
  | none : Waiting [] [] []
  | head {run : WheelRun} {runs : List WheelRun} {chunks : List Chunk} {report : QueuedMouseWheel}
      {reports : List QueuedMouseWheel} (hhead : Underway chunks run report)
      (hrest : List.Forall₂ (Underway []) runs reports) :
      Waiting (run :: runs) chunks (report :: reports)

/-- The chunks fall, in order, into one group for each run. -/
def Conserved (runs : List WheelRun) (chunks : List Chunk) (waiting : List QueuedMouseWheel) : Prop :=
  ∃ done rest groups current, runs = done ++ rest ∧ chunks = groups.flatten ++ current ∧
    List.Forall₂ Settled done groups ∧ Waiting rest current waiting

/-! ## Every movement is accounted for -/

theorem underway_opened (movement : WheelMovement) (sequence : UInt32) :
    Underway [] (.opened movement sequence) (MouseWheelQueue.opened movement sequence) := by
  refine ⟨rfl, by simp, fun hexact => ?_⟩
  simp only [WheelRun.opened, Bool.and_eq_true, decide_eq_true_eq] at hexact
  simp only [movementOf, MouseWheelQueue.opened, WheelRun.opened, Int.zero_add]
  exact ⟨MouseWheelQueue.clamp_of_le hexact.1.1 hexact.1.2,
    MouseWheelQueue.clamp_of_le hexact.2.1 hexact.2.2⟩

theorem Underway.joined {chunks : List Chunk} {run : WheelRun} {report : QueuedMouseWheel}
    (h : Underway chunks run report)
    (movement : WheelMovement) :
    Underway chunks
      (run.joined movement ((saturatingWheelAdd report.vertical movement.vertical).2 ||
        (saturatingWheelAdd report.horizontal movement.horizontal).2))
      (MouseWheelQueue.joined movement report) := by
  refine ⟨h.entry, h.sequence, fun hexact => ?_⟩
  simp only [WheelRun.joined, Bool.and_eq_true, Bool.not_eq_true', Bool.or_eq_false_iff] at hexact
  obtain ⟨hrun, hvertical, hhorizontal⟩ := hexact
  have hsums := h.sums hrun
  have hvertical' := MouseWheelQueue.saturatingWheelAdd_exact hvertical
  have hhorizontal' := MouseWheelQueue.saturatingWheelAdd_exact hhorizontal
  simp only [MouseWheelQueue.joined, WheelRun.joined]
  omega

/-- A new entry. -/
theorem Conserved.opened {runs : List WheelRun} {chunks : List Chunk} {waiting : List QueuedMouseWheel}
    (h : Conserved runs chunks waiting) (movement : WheelMovement) (sequence : UInt32) :
    Conserved (runs ++ [.opened movement sequence]) chunks
      (waiting ++ [MouseWheelQueue.opened movement sequence]) := by
  obtain ⟨done, rest, groups, current, rfl, rfl, hdone, hrest⟩ := h
  refine ⟨done, rest ++ [.opened movement sequence], groups, current,
    List.append_assoc _ _ _, rfl, hdone, ?_⟩
  have hnew := underway_opened movement sequence
  cases hrest with
  | none => exact .head hnew .nil
  | head hhead hrest => exact .head hhead (List.rel_append hrest (.cons hnew .nil))

theorem forall₂_concat {α β : Type} {R : α → β → Prop} {x : β} :
    ∀ {xs : List β} {l : List α}, List.Forall₂ R l (xs ++ [x]) →
    ∃ l' y, l = l' ++ [y] ∧ List.Forall₂ R l' xs ∧ R y x
  | [], _, .cons hy .nil => ⟨[], _, rfl, .nil, hy⟩
  | _ :: _, _, .cons (a := a) hz hrest => by
    obtain ⟨l', y, rfl, hinit, hy⟩ := forall₂_concat hrest
    exact ⟨a :: l', y, rfl, .cons hz hinit, hy⟩

/-- The last run that waits can be changed together with its entry. -/
theorem Waiting.concat {rest : List WheelRun} {current : List Chunk} {init : List QueuedMouseWheel}
    {tail : QueuedMouseWheel}
    (h : Waiting rest current (init ++ [tail])) :
    ∃ runs run chunks, rest = runs ++ [run] ∧ Underway chunks run tail ∧
      ∀ run' tail', Underway chunks run' tail' → Waiting (runs ++ [run']) current (init ++ [tail']) := by
  cases init with
  | nil =>
    cases h with
    | head hhead hrest =>
      cases hrest
      exact ⟨[], _, current, rfl, hhead, fun run' tail' h' => .head h' .nil⟩
  | cons first init =>
    cases h with
    | head hhead hrest =>
      obtain ⟨runs, run, rfl, hinit, hlast⟩ := forall₂_concat hrest
      exact ⟨_ :: runs, run, [], rfl, hlast, fun run' tail' h' =>
        .head hhead (List.rel_append hinit (.cons h' .nil))⟩

/-- More movement for the last entry. -/
theorem Conserved.joined {runs : List WheelRun} {chunks : List Chunk} {init : List QueuedMouseWheel}
    {tail : QueuedMouseWheel}
    (h : Conserved runs chunks (init ++ [tail])) (movement : WheelMovement) :
    Conserved (runs.dropLast ++ (runs.getLast?.map (WheelRun.joined movement
        ((saturatingWheelAdd tail.vertical movement.vertical).2 ||
          (saturatingWheelAdd tail.horizontal movement.horizontal).2))).toList)
      chunks (init ++ [MouseWheelQueue.joined movement tail]) := by
  obtain ⟨done, rest, groups, current, rfl, rfl, hdone, hrest⟩ := h
  obtain ⟨runs, run, chunks, rfl, hrun, hchange⟩ := hrest.concat
  refine ⟨done, runs ++ [run.joined movement _], groups, current, ?_, rfl,
    hdone, hchange _ _ (hrun.joined movement)⟩
  rw [← List.append_assoc, List.dropLast_concat, List.getLast?_concat,
    Option.map_some, Option.toList_some, List.append_assoc]

/-- The first run that waits, with the chunks it had. -/
theorem Conserved.head {runs : List WheelRun} {chunks : List Chunk} {report : QueuedMouseWheel}
    {reports : List QueuedMouseWheel}
    (h : Conserved runs chunks (report :: reports)) :
    ∃ done run rest groups current, runs = done ++ run :: rest ∧ chunks = groups.flatten ++ current ∧
      List.Forall₂ Settled done groups ∧ Underway current run report ∧
      List.Forall₂ (Underway []) rest reports := by
  obtain ⟨done, rest, groups, current, rfl, rfl, hdone, hrest⟩ := h
  cases hrest with
  | head hhead hrest => exact ⟨done, _, _, groups, current, rfl, rfl, hdone, hhead, hrest⟩

theorem waiting_of_forall₂ {runs : List WheelRun} {reports : List QueuedMouseWheel}
    (h : List.Forall₂ (Underway []) runs reports) : Waiting runs [] reports := by
  cases h with
  | nil => exact .none
  | cons hhead hrest => exact .head hhead hrest

/-- The head is through, with one more chunk. -/
theorem Conserved.settle {runs : List WheelRun} {chunks : List Chunk} {report : QueuedMouseWheel}
    {reports : List QueuedMouseWheel}
    (h : Conserved runs chunks (report :: reports)) {chunk : Chunk}
    (hsequence : chunk.sequence = report.sequence)
    (hall : chunk.dropped = false → chunk.vertical = report.vertical ∧
      chunk.horizontal = report.horizontal) :
    Conserved runs (chunks ++ [chunk]) reports := by
  obtain ⟨done, run, rest, groups, current, rfl, rfl, hdone, hhead, hrest⟩ := h.head
  refine ⟨done ++ [run], rest, groups ++ [current ++ [chunk]], [], ?_, ?_, ?_, waiting_of_forall₂ hrest⟩
  · rw [List.append_assoc, List.singleton_append]
  · rw [List.flatten_append, List.flatten_cons, List.flatten_nil,
      List.append_nil, List.append_nil, List.append_assoc]
  refine List.rel_append hdone (.cons ⟨?_, ?_⟩ .nil)
  · intro old hold
    rcases List.mem_append.1 hold with hcurrent | hnew
    · exact (hhead.sequence old hcurrent).1
    · rw [List.mem_singleton.1 hnew, hsequence, hhead.entry]
  · intro hexact hkept
    have hsums := hhead.sums hexact
    have hchunk := hall (hkept chunk (List.mem_append_right _ (.head _)))
    simp only [movementOf_append, movementOf]
    omega

/-- A chunk of the head was sent, and some of it is left. -/
theorem Conserved.send {runs : List WheelRun} {chunks : List Chunk} {report : QueuedMouseWheel}
    {reports : List QueuedMouseWheel}
    (h : Conserved runs chunks (report :: reports)) (vertical horizontal : Int) :
    Conserved runs (chunks ++ [⟨report.sequence, vertical, horizontal, false⟩])
      (MouseWheelQueue.remainder report vertical horizontal :: reports) := by
  obtain ⟨done, run, rest, groups, current, rfl, rfl, hdone, hhead, hrest⟩ := h.head
  refine ⟨done, run :: rest, groups, current ++ [⟨report.sequence, vertical, horizontal, false⟩],
    rfl, ?_, hdone, .head ⟨?_, ?_, ?_⟩ hrest⟩
  · rw [List.append_assoc]
  · exact hhead.entry
  · intro old hold
    rcases List.mem_append.1 hold with hcurrent | hnew
    · exact hhead.sequence old hcurrent
    · rw [List.mem_singleton.1 hnew]
      exact ⟨hhead.entry, rfl⟩
  · intro hexact
    have hsums := hhead.sums hexact
    simp only [movementOf_append, movementOf, MouseWheelQueue.remainder]
    omega

/-! ## Runs -/

/-- What a run has shown against what waits. -/
structure Accounted (config : BleInputSchedulerConfig) (seen : List Shown) (d : InputDelivery) : Prop where
  config : d.scheduler.config = config.clamped
  hid : (hidTaken seen).map Prod.fst ++ d.hidReports.waiting.map scheduledHid =
    (hidQueued seen).map scheduledHid
  wheel : Conserved (wheelRuns seen) (chunksTaken seen) d.wheelReports.waiting

theorem accounted_start (config : BleInputSchedulerConfig) : Accounted config [] (start config) :=
  ⟨rfl, rfl, [], [], [], [], rfl, rfl, .nil, .none⟩

theorem hidQueued_concat (seen : List Shown) (entry : Shown) :
    hidQueued (seen ++ [entry]) = hidQueued seen ++ (hidQueuedBy entry).toList := by
  rw [hidQueued, List.filterMap_append]
  cases h : hidQueuedBy entry <;> simp [hidQueued, h]

theorem hidTaken_concat (seen : List Shown) (entry : Shown) :
    hidTaken (seen ++ [entry]) = hidTaken seen ++ (hidTakenBy entry).toList := by
  rw [hidTaken, List.filterMap_append]
  cases h : hidTakenBy entry <;> simp [hidTaken, h]

theorem chunksTaken_concat (seen : List Shown) (entry : Shown) :
    chunksTaken (seen ++ [entry]) = chunksTaken seen ++ (chunkBy entry).toList := by
  rw [chunksTaken, List.filterMap_append]
  cases h : chunkBy entry <;> simp [chunksTaken, h]

theorem wheelRuns_concat (seen : List Shown) (entry : Shown) :
    wheelRuns (seen ++ [entry]) = noteWheel (wheelRuns seen) entry := by
  rw [wheelRuns, List.foldl_append]
  rfl

section
variable {config : BleInputSchedulerConfig} {seen : List Shown} {d d' : InputDelivery} {entry : Shown}

/-- The reports a push adds are the reports it queued. -/
theorem Accounted.hid_pushed (h : Accounted config seen d) (htaken : hidTakenBy entry = none)
    (hwaiting : d'.hidReports.waiting = d.hidReports.waiting ++ (hidQueuedBy entry).toList) :
    (hidTaken (seen ++ [entry])).map Prod.fst ++ d'.hidReports.waiting.map scheduledHid =
      (hidQueued (seen ++ [entry])).map scheduledHid := by
  rw [hidTaken_concat, hidQueued_concat, htaken, hwaiting,
    Option.toList_none, List.append_nil, List.map_append,
    List.map_append, ← List.append_assoc, h.hid]

/-- The report that is taken is the oldest one. -/
theorem Accounted.hid_taken (h : Accounted config seen d) {head : QueuedHidReport}
    {result : BleInputPollResult}
    (htaken : hidTakenBy entry = some (scheduledHid head, result)) (hqueued : hidQueuedBy entry = none)
    (hwaiting : d.hidReports.waiting = head :: d'.hidReports.waiting) :
    (hidTaken (seen ++ [entry])).map Prod.fst ++ d'.hidReports.waiting.map scheduledHid =
      (hidQueued (seen ++ [entry])).map scheduledHid := by
  have hhid := h.hid
  rw [hwaiting, List.map_cons] at hhid
  rw [hidTaken_concat, hidQueued_concat, htaken, hqueued,
    Option.toList_some, Option.toList_none, List.append_nil,
    List.map_append, List.append_assoc, ← hhid]
  rfl

/-- An entry that shows nothing of the wheel. -/
theorem Accounted.wheel_kept (h : Accounted config seen d)
    (hruns : noteWheel (wheelRuns seen) entry = wheelRuns seen)
    (hchunk : chunkBy entry = none) (hwaiting : d'.wheelReports.waiting = d.wheelReports.waiting) :
    Conserved (wheelRuns (seen ++ [entry])) (chunksTaken (seen ++ [entry])) d'.wheelReports.waiting := by
  rw [wheelRuns_concat, chunksTaken_concat, hruns, hchunk, hwaiting, Option.toList_none, List.append_nil]
  exact h.wheel

/-- An entry that shows nothing of the queues. -/
theorem Accounted.quiet (h : Accounted config seen d) (hconfig : d'.scheduler.config = d.scheduler.config)
    (hhid : d'.hidReports = d.hidReports) (hwheel : d'.wheelReports = d.wheelReports)
    (hqueued : hidQueuedBy entry = none) (htaken : hidTakenBy entry = none)
    (hruns : noteWheel (wheelRuns seen) entry = wheelRuns seen) (hchunk : chunkBy entry = none) :
    Accounted config (seen ++ [entry]) d' :=
  ⟨hconfig.trans h.config, h.hid_pushed htaken (by rw [hhid, hqueued, Option.toList_none, List.append_nil]),
    h.wheel_kept hruns hchunk (by rw [hwheel])⟩

end

theorem Accounted.pushClassified {config : BleInputSchedulerConfig} {seen : List Shown} {d : InputDelivery}
    (h : Accounted config seen d) (report : HidReport) (reportClass : HidReportClass) :
    Accounted config
      (seen ++ [(.pushClassified report reportClass, (d.step (.pushClassified report reportClass)).1)])
      (d.step (.pushClassified report reportClass)).2 := by
  have heffect := d.hidReports.pushClassified_effect report reportClass
  simp only [step]
  generalize d.hidReports.pushClassified report reportClass = outcome at heffect
  cases heffect with
  | invalid => exact h.quiet rfl rfl rfl rfl rfl rfl rfl
  | coalesced => exact h.quiet rfl rfl rfl rfl rfl rfl rfl
  | full => exact h.quiet rfl rfl rfl rfl rfl rfl rfl
  | queued hsize =>
    refine ⟨h.config, h.hid_pushed rfl ?_, h.wheel_kept rfl rfl rfl⟩
    exact HidReportQueue.waiting_append (Nat.lt_of_lt_of_le hsize reportClass.capacity_le) report
      reportClass

theorem Accounted.push {config : BleInputSchedulerConfig} {seen : List Shown} {d : InputDelivery}
    (h : Accounted config seen d) (report : HidReport) (reservedFreeSlots : Nat) :
    Accounted config
      (seen ++ [(.push report reservedFreeSlots, (d.step (.push report reservedFreeSlots)).1)])
      (d.step (.push report reservedFreeSlots)).2 := by
  have husable :
    (if reservedFreeSlots ≥ hidReportQueueCapacity then 0 else hidReportQueueCapacity - reservedFreeSlots) ≤
      hidReportQueueCapacity := by
    split <;> omega
  simp only [step, HidReportQueue.push]
  rcases d.hidReports.pushWithLimit_cases report .appCommand husable false with ⟨hstatus, hsame⟩
    | ⟨hqueued, hwaiting⟩
  · have hnone :
      hidQueuedBy (.push report reservedFreeSlots, .pushed (d.hidReports.pushWithLimit report .appCommand
        (if reservedFreeSlots ≥ hidReportQueueCapacity then 0 else
          hidReportQueueCapacity - reservedFreeSlots) false).1) = none :=
      if_neg hstatus
    exact h.quiet rfl hsame rfl hnone rfl rfl rfl
  · rw [hqueued]
    exact ⟨h.config, h.hid_pushed rfl hwaiting, h.wheel_kept rfl rfl rfl⟩

theorem Accounted.pushWheel {config : BleInputSchedulerConfig} {seen : List Shown} {d : InputDelivery}
    (h : Accounted config seen d) (movement : WheelMovement) :
    Accounted config (seen ++ [(.pushWheel movement, (d.step (.pushWheel movement)).1)])
      (d.step (.pushWheel movement)).2 := by
  have heffect := d.wheelReports.push_effect movement
  have hwheel := h.wheel
  simp only [step]
  generalize d.wheelReports.push movement = outcome at heffect
  cases heffect with
  | refused => exact h.quiet rfl rfl rfl rfl rfl rfl rfl
  | coalesced hwaiting hafter =>
    refine ⟨h.config, h.hid_pushed rfl (List.append_nil _).symm, ?_⟩
    rw [hwaiting] at hwheel
    rw [wheelRuns_concat, chunksTaken_concat, hafter]
    change Conserved _ (chunksTaken seen ++ []) _
    rw [List.append_nil]
    exact hwheel.joined movement
  | queued hafter =>
    refine ⟨h.config, h.hid_pushed rfl (List.append_nil _).symm, ?_⟩
    rw [wheelRuns_concat, chunksTaken_concat, hafter]
    change Conserved _ (chunksTaken seen ++ []) _
    rw [List.append_nil]
    exact hwheel.opened movement _

/-- What a poll takes is the head of its queue, in full or by a chunk. -/
theorem Accounted.attempt {config : BleInputSchedulerConfig} {seen : List Shown}
    {d d' : InputDelivery} {nowUs : UInt64}
    {tx : BleInputTxResult} {report : BleScheduledReport} {result : BleInputPollResult}
    (h : Accounted config seen d)
    (hattempt : Attempt d report result d') (hconfig : d'.scheduler.config = d.scheduler.config) :
    Accounted config (seen ++ [(.poll nowUs tx, .polled result (some report))]) d' := by
  cases hattempt with
  | hid hresult hreport hbefore hafter hwheel =>
    rename_i head rest hsend hcount
    subst hreport
    have htaken :
      hidTakenBy (.poll nowUs tx, .polled result (some (scheduledHid head))) =
      some (scheduledHid head, result) :=
      if_pos ⟨rfl, hresult⟩
    refine ⟨hconfig.trans h.config, h.hid_taken htaken rfl (by rw [hafter]; exact hbefore),
      h.wheel_kept rfl ?_ (by rw [hwheel])⟩
    rcases hresult with rfl | rfl <;> rfl
  | chunk hreport hbefore hafter hhid =>
    rename_i head rest
    subst hreport
    refine ⟨hconfig.trans h.config, h.hid_pushed rfl (by rw [hhid]; exact (List.append_nil _).symm), ?_⟩
    have hwheel := h.wheel
    rw [hbefore] at hwheel
    rw [wheelRuns_concat, chunksTaken_concat, hafter]
    change Conserved (wheelRuns seen) (chunksTaken seen ++ [⟨head.sequence, _, _, false⟩]) _
    split
    · rename_i hzero
      refine hwheel.settle rfl fun _ => ?_
      change clamp _ _ _ = _ ∧ clamp _ _ _ = _
      omega
    · exact hwheel.send _ _
  | wheelDropped hreport hbefore hafter hhid =>
    rename_i head rest
    subst hreport
    refine ⟨hconfig.trans h.config, h.hid_pushed rfl (by rw [hhid]; exact (List.append_nil _).symm), ?_⟩
    have hwheel := h.wheel
    rw [hbefore] at hwheel
    rw [wheelRuns_concat, chunksTaken_concat, hafter]
    change Conserved (wheelRuns seen) (chunksTaken seen ++ [⟨head.sequence, _, _, true⟩]) _
    refine hwheel.settle rfl fun hkept => ?_
    cases hkept
  | refused hresult hhid hwheel =>
    have htaken : hidTakenBy (.poll nowUs tx, .polled result (some report)) = none := by
      refine if_neg fun hboth => ?_
      rcases hresult with rfl | rfl | rfl <;> rcases hboth.2 with h | h <;> cases h
    refine h.quiet hconfig hhid hwheel rfl htaken rfl ?_
    rcases hresult with rfl | rfl | rfl <;> rfl

theorem config_setConnectionInterval (s : BleInputScheduler) (intervalUnits : UInt16) (valid : Bool) :
    (s.setConnectionInterval intervalUnits valid).config = s.config := by
  unfold BleInputScheduler.setConnectionInterval
  split
  · rfl
  · split <;> rfl

theorem Accounted.step {config : BleInputSchedulerConfig} {seen : List Shown} {d : InputDelivery}
    (h : Accounted config seen d) (event : DeliveryEvent) :
    Accounted config (seen ++ [(event, (d.step event).1)]) (d.step event).2 := by
  cases event with
  | pushClassified report reportClass => exact h.pushClassified report reportClass
  | push report reservedFreeSlots => exact h.push report reservedFreeSlots
  | pushWheel movement => exact h.pushWheel movement
  | setConnectionInterval intervalUnits valid =>
    exact h.quiet (config_setConnectionInterval d.scheduler intervalUnits valid) rfl rfl rfl rfl rfl rfl
  | resetDeliveryClock => exact h.quiet rfl rfl rfl rfl rfl rfl rfl
  | markDisconnected => exact h.quiet rfl rfl rfl rfl rfl rfl rfl
  | takeStateResyncRequired => exact h.quiet rfl rfl rfl rfl rfl rfl rfl
  | poll nowUs tx =>
    have heffect := d.poll_effect nowUs.toNat fun _ => tx
    simp only [InputDelivery.step]
    generalize d.poll nowUs.toNat (fun _ => tx) = outcome at heffect
    cases heffect with
    | still hresult => rcases hresult with rfl | rfl <;> exact h.quiet rfl rfl rfl rfl rfl rfl rfl
    | attempt hoffered hdue hattempt hticked => exact h.attempt hattempt hticked.config

end InputDelivery

end CodexKeyboard.Keyboard
