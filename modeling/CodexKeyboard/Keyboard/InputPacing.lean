import CodexKeyboard.Keyboard.InputDelivery
/-!
# Pace and fairness of BLE input

When the scheduler attempts and which queue it picks, over every run: the clock of the attempts
(`Since`), the heads that a refusal leaves in place (`Kept`), and how many reports go before a wheel
chunk.

| here | there |
| --- | --- |
| `Since` | `next_attempt_us_` against `last_attempt_us_` (ble_input_scheduler.cpp:50-74, 122, 266) |
| `Kept` | `front` of the two queues between two attempts |
| `Delivered`, `input_delivered` | what holds of every run |
-/

namespace CodexKeyboard.Keyboard

open Lib

/-- The report a poll offered. -/
def DeliveryAnswer.offered : DeliveryAnswer → Option BleScheduledReport
  | .polled _ report => report
  | _ => none

/-- A result that leaves the report in its queue. -/
def BleInputPollResult.Refused (result : BleInputPollResult) : Prop :=
  result = .retryable ∨ result = .disconnected ∨ result = .fatal

namespace DeliveryEvent

def isReset : DeliveryEvent → Bool
  | resetDeliveryClock | markDisconnected => true
  | _ => false

def pushesHid : DeliveryEvent → Bool
  | pushClassified .. | push .. => true
  | _ => false

def pushesWheel : DeliveryEvent → Bool
  | pushWheel _ => true
  | _ => false

/-- What may come between two attempts at the same head. -/
def keepsTurn (hidFirst : Bool) (event : DeliveryEvent) : Bool :=
  !event.isReset && !(if hidFirst then event.pushesWheel else event.pushesHid)

end DeliveryEvent

namespace InputDelivery

/-! ## The clock -/

theorem saturatingAdd_eq {lhs : Nat} (h : lhs ≤ u64Max) (rhs : Nat) :
    saturatingAdd lhs rhs = min (lhs + rhs) u64Max := by
  unfold saturatingAdd
  split <;> omega

/-- There was an attempt at `t` or later, and the next one is not due before the shortest delay
after the last. -/
structure Since (t : Nat) (s : BleInputScheduler) : Prop where
  attempted : s.hasAttempted = true
  since : t ≤ s.lastAttemptUs
  last : s.lastAttemptUs ≤ u64Max
  next : min (s.lastAttemptUs + shortestDelayUs s) u64Max ≤ s.nextAttemptUs

theorem Ticked.since {s s' : BleInputScheduler} {nowUs t : Nat} (h : Ticked s s' nowUs)
    (hnow : nowUs ≤ u64Max) (ht : t ≤ nowUs) :
    Since t s' := by
  obtain ⟨delayUs, hdelay, hnext⟩ := h.next
  have hsame : shortestDelayUs s' = shortestDelayUs s := by
    rw [shortestDelayUs, h.period, h.config, shortestDelayUs]
  refine ⟨h.attempted, h.last ▸ ht, h.last ▸ hnow, ?_⟩
  rw [hnext, h.last, hsame, saturatingAdd_eq hnow]
  omega

theorem toNat_le_u64Max (nowUs : UInt64) : nowUs.toNat ≤ u64Max := Nat.le_of_lt_succ nowUs.toNat_lt

/-- An attempt comes when it is due, so after the attempts before it. -/
theorem Since.due {t nowUs : Nat} {s : BleInputScheduler} (h : Since t s)
    (hdue : s.hasAttempted = true → s.nextAttemptUs ≤ nowUs) :
    min (t + shortestDelayUs s) u64Max ≤ nowUs ∧ (nowUs ≤ u64Max → t ≤ nowUs) := by
  have hnext := h.next
  have hsince := h.since
  have hlast := h.last
  have hdue := hdue h.attempted
  omega

theorem Since.setConnectionInterval {t : Nat} {s : BleInputScheduler} (h : Since t s)
    (intervalUnits : UInt16) (valid : Bool) :
    Since t (s.setConnectionInterval intervalUnits valid) := by
  unfold BleInputScheduler.setConnectionInterval
  split
  · exact h
  · rw [if_pos h.attempted]
    refine ⟨h.attempted, h.since, h.last, ?_⟩
    generalize s.connectionPeriodUs intervalUnits valid = periodUs
    have hperiod : shortestDelayUs (s.rebased periodUs) = min periodUs s.config.maximumRetryBackoffUs := rfl
    have hretry : min periodUs s.config.maximumRetryBackoffUs ≤
        BleInputScheduler.retryDelayUs { s with deliveryPeriodUs := periodUs } :=
      shortestDelayUs_le_retryDelayUs { s with deliveryPeriodUs := periodUs }
    rw [hperiod]
    simp only [BleInputScheduler.rebased]
    by_cases hfirst : s.retryStreak = 0
    · rw [if_pos hfirst, if_pos hfirst, saturatingAdd_eq h.last]
      omega
    · rw [if_neg hfirst, if_neg hfirst, saturatingAdd_eq h.last]
      omega

theorem Since.step {t : Nat} {d : InputDelivery} (h : Since t d.scheduler) {event : DeliveryEvent}
    (hreset : event.isReset = false) : Since t (d.step event).2.scheduler := by
  cases event with
  | pushClassified => exact h
  | push => exact h
  | pushWheel => exact h
  | setConnectionInterval intervalUnits valid => exact h.setConnectionInterval intervalUnits valid
  | resetDeliveryClock => cases hreset
  | markDisconnected => cases hreset
  | takeStateResyncRequired => exact ⟨h.attempted, h.since, h.last, h.next⟩
  | poll nowUs tx =>
    have heffect := d.poll_effect nowUs.toNat fun _ => tx
    have hnow := toNat_le_u64Max nowUs
    simp only [InputDelivery.step]
    generalize d.poll nowUs.toNat (fun _ => tx) = outcome at heffect
    cases heffect with
    | still => exact h
    | attempt hoffered hdue hattempt hticked => exact hticked.since hnow ((h.due hdue).2 hnow)

theorem since_after {t : Nat} : ∀ {events : List DeliveryEvent} {d : InputDelivery}, Since t d.scheduler →
    (∀ event ∈ events, event.isReset = false) → Since t (after InputDelivery.step d events).scheduler
  | [], _, h, _ => h
  | event :: events, d, h, hreset => by
    rw [after_cons]
    have hnext := h.step (hreset event (.head _))
    exact since_after hnext fun event hevent => hreset event (List.mem_cons_of_mem _ hevent)

/-- A poll that offers a report. -/
theorem offered_poll {d : InputDelivery} {nowUs : UInt64} {tx : BleInputTxResult}
    {report : BleScheduledReport}
    {result : BleInputPollResult} (h : (d.step (.poll nowUs tx)).1 = .polled result (some report)) :
    d.offered = some report ∧ (d.scheduler.hasAttempted = true → d.scheduler.nextAttemptUs ≤ nowUs.toNat) ∧
      Attempt d report result (d.step (.poll nowUs tx)).2 ∧
      Ticked d.scheduler (d.step (.poll nowUs tx)).2.scheduler nowUs.toNat := by
  have heffect := d.poll_effect nowUs.toNat fun _ => tx
  simp only [step] at h ⊢
  generalize d.poll nowUs.toNat (fun _ => tx) = outcome at heffect h
  cases heffect with
  | still => cases h
  | attempt hoffered hdue hattempt hticked =>
    cases h
    exact ⟨hoffered, hdue, hattempt, hticked⟩

/-- Two attempts without a reset between them are a shortest delay apart. -/
theorem attempts_apart {d : InputDelivery} {t₁ t₂ : UInt64} {tx₁ tx₂ : BleInputTxResult}
    {mid : List DeliveryEvent}
    {report₁ report₂ : BleScheduledReport} {result₁ result₂ : BleInputPollResult}
    (h₁ : (d.step (.poll t₁ tx₁)).1 = .polled result₁ (some report₁))
    (hmid : ∀ event ∈ mid, event.isReset = false)
    (h₂ : ((after step (d.step (.poll t₁ tx₁)).2 mid).step (.poll t₂ tx₂)).1 =
      .polled result₂ (some report₂)) :
    min (t₁.toNat + shortestDelayUs (after step (d.step (.poll t₁ tx₁)).2 mid).scheduler) u64Max ≤
      t₂.toNat := by
  have hsince := since_after ((offered_poll h₁).2.2.2.since (toNat_le_u64Max t₁) (Nat.le_refl _)) hmid
  exact (hsince.due (offered_poll h₂).2.1).1

/-! ## The heads -/

/-- What is at the head of a queue of `d` is at its head in `d'`; a wheel entry may have grown. -/
structure Kept (d d' : InputDelivery) : Prop where
  config : d'.scheduler.config = d.scheduler.config
  hid : ∀ head rest, d.hidReports.waiting = head :: rest → ∃ rest', d'.hidReports.waiting = head :: rest'
  wheel : ∀ head rest, d.wheelReports.waiting = head :: rest →
    ∃ head' rest', d'.wheelReports.waiting = head' :: rest' ∧ head'.sequence = head.sequence ∧
    head'.bleOwner = head.bleOwner

theorem Kept.refl (d : InputDelivery) : Kept d d :=
  ⟨rfl, fun _ rest h => ⟨rest, h⟩, fun head rest h => ⟨head, rest, h, rfl, rfl⟩⟩

theorem Kept.trans {d d' d'' : InputDelivery} (h : Kept d d') (h' : Kept d' d'') : Kept d d'' := by
  refine ⟨h'.config.trans h.config, fun head rest hbefore => ?_, fun head rest hbefore => ?_⟩
  · obtain ⟨rest', hrest'⟩ := h.hid head rest hbefore
    exact h'.hid head rest' hrest'
  · obtain ⟨head', rest', hrest', hsequence, howner⟩ := h.wheel head rest hbefore
    obtain ⟨head'', rest'', hrest'', hsequence', howner'⟩ := h'.wheel head' rest' hrest'
    exact ⟨head'', rest'', hrest'', hsequence'.trans hsequence, howner'.trans howner⟩

/-- Queues that stay as they are. -/
theorem Kept.of_eq {d d' : InputDelivery} (hconfig : d'.scheduler.config = d.scheduler.config)
    (hhid : d'.hidReports = d.hidReports) (hwheel : d'.wheelReports = d.wheelReports) : Kept d d' :=
  ⟨hconfig, fun _ rest h => ⟨rest, by rw [hhid]; exact h⟩,
    fun head rest h => ⟨head, rest, by rw [hwheel]; exact h, rfl, rfl⟩⟩

/-- More HID reports. -/
theorem Kept.of_hid {d d' : InputDelivery} (hconfig : d'.scheduler.config = d.scheduler.config)
    (hhid : ∃ more, d'.hidReports.waiting = d.hidReports.waiting ++ more)
    (hwheel : d'.wheelReports = d.wheelReports) :
    Kept d d' := by
  obtain ⟨more, hmore⟩ := hhid
  refine ⟨hconfig, fun head rest h => ⟨rest ++ more, ?_⟩,
    fun head rest h => ⟨head, rest, by rw [hwheel]; exact h, rfl, rfl⟩⟩
  rw [hmore, h, List.cons_append]

theorem kept_pushClassified (d : InputDelivery) (report : HidReport) (reportClass : HidReportClass) :
    Kept d (d.step (.pushClassified report reportClass)).2 := by
  have heffect := d.hidReports.pushClassified_effect report reportClass
  simp only [step]
  generalize d.hidReports.pushClassified report reportClass = outcome at heffect
  cases heffect with
  | invalid => exact .refl d
  | coalesced => exact .refl d
  | full => exact .refl d
  | queued hsize =>
    exact .of_hid rfl ⟨_,
      HidReportQueue.waiting_append (Nat.lt_of_lt_of_le hsize reportClass.capacity_le) report
      reportClass⟩ rfl

theorem kept_push (d : InputDelivery) (report : HidReport) (reservedFreeSlots : Nat) :
    Kept d (d.step (.push report reservedFreeSlots)).2 := by
  have husable :
    (if reservedFreeSlots ≥ hidReportQueueCapacity then 0 else hidReportQueueCapacity - reservedFreeSlots) ≤
      hidReportQueueCapacity := by
    split <;> omega
  simp only [step, HidReportQueue.push]
  rcases d.hidReports.pushWithLimit_cases report .appCommand husable false with ⟨-, hsame⟩
    | ⟨hqueued, hwaiting⟩
  · exact .of_eq rfl hsame rfl
  · rw [hqueued]
    exact .of_hid rfl ⟨_, hwaiting⟩ rfl

theorem kept_pushWheel (d : InputDelivery) (movement : WheelMovement) :
    Kept d (d.step (.pushWheel movement)).2 := by
  have heffect := d.wheelReports.push_effect movement
  simp only [step]
  generalize d.wheelReports.push movement = outcome at heffect
  cases heffect with
  | refused => exact .refl d
  | coalesced hwaiting hafter =>
    rename_i init tail after
    refine ⟨rfl, fun head rest h => ⟨rest, h⟩, fun head rest h => ?_⟩
    cases init with
    | nil =>
      obtain ⟨rfl, -⟩ := List.cons.inj (h.symm.trans hwaiting)
      exact ⟨_, [], hafter, rfl, rfl⟩
    | cons first init =>
      obtain ⟨rfl, -⟩ := List.cons.inj (h.symm.trans hwaiting)
      exact ⟨head, _, hafter, rfl, rfl⟩
  | queued hafter =>
    exact ⟨rfl, fun head rest h => ⟨rest, h⟩,
      fun head rest h => ⟨head, _, by rw [hafter, h]; rfl, rfl, rfl⟩⟩

/-- An event that offers nothing leaves the heads where they are. -/
theorem kept_step {d : InputDelivery} {event : DeliveryEvent} (h : (d.step event).1.offered = none) :
    Kept d (d.step event).2 := by
  cases event with
  | pushClassified report reportClass => exact kept_pushClassified d report reportClass
  | push report reservedFreeSlots => exact kept_push d report reservedFreeSlots
  | pushWheel movement => exact kept_pushWheel d movement
  | setConnectionInterval intervalUnits valid =>
    exact .of_eq (config_setConnectionInterval d.scheduler intervalUnits valid) rfl rfl
  | resetDeliveryClock => exact .of_eq rfl rfl rfl
  | markDisconnected => exact .of_eq rfl rfl rfl
  | takeStateResyncRequired => exact .of_eq rfl rfl rfl
  | poll nowUs tx =>
    have heffect := d.poll_effect nowUs.toNat fun _ => tx
    simp only [step] at h ⊢
    generalize d.poll nowUs.toNat (fun _ => tx) = outcome at heffect h
    cases heffect with
    | still => exact .refl d
    | attempt => cases h

theorem kept_after : ∀ {events : List DeliveryEvent} {d : InputDelivery},
    (∀ entry ∈ trace step d events, entry.2.offered = none) → Kept d (after step d events)
  | [], d, _ => .refl d
  | event :: events, d, h => by
    rw [after_cons]
    have hfirst := kept_step (h _ (.head _))
    exact hfirst.trans (kept_after fun entry hentry => h entry (List.mem_cons_of_mem _ hentry))

/-- The queue that goes first stays first: what was not pushed to keeps still, and nothing was reset. -/
structure SameTurn (d d' : InputDelivery) (hidFirst : Bool) : Prop where
  count : d'.scheduler.consecutiveHid = d.scheduler.consecutiveHid
  other : if hidFirst = true then d'.wheelReports = d.wheelReports else d'.hidReports = d.hidReports

theorem count_setConnectionInterval (s : BleInputScheduler) (intervalUnits : UInt16) (valid : Bool) :
    (s.setConnectionInterval intervalUnits valid).consecutiveHid = s.consecutiveHid := by
  unfold BleInputScheduler.setConnectionInterval
  split
  · rfl
  · split <;> rfl

theorem sameTurn_step {d : InputDelivery} {event : DeliveryEvent} {hidFirst : Bool}
    (hkeeps : event.keepsTurn hidFirst = true)
    (h : (d.step event).1.offered = none) : SameTurn d (d.step event).2 hidFirst := by
  cases event with
  | pushClassified report reportClass =>
    cases hidFirst with
    | true => exact ⟨rfl, rfl⟩
    | false => cases hkeeps
  | push report reservedFreeSlots =>
    cases hidFirst with
    | true => exact ⟨rfl, rfl⟩
    | false => cases hkeeps
  | pushWheel movement =>
    cases hidFirst with
    | true => cases hkeeps
    | false => exact ⟨rfl, rfl⟩
  | setConnectionInterval intervalUnits valid =>
    exact ⟨count_setConnectionInterval d.scheduler intervalUnits valid, by cases hidFirst <;> rfl⟩
  | resetDeliveryClock => cases hkeeps
  | markDisconnected => cases hkeeps
  | takeStateResyncRequired => exact ⟨rfl, by cases hidFirst <;> rfl⟩
  | poll nowUs tx =>
    have heffect := d.poll_effect nowUs.toNat fun _ => tx
    simp only [step] at h ⊢
    generalize d.poll nowUs.toNat (fun _ => tx) = outcome at heffect h
    cases heffect with
    | still => exact ⟨rfl, by cases hidFirst <;> rfl⟩
    | attempt => cases h

theorem SameTurn.trans {d d' d'' : InputDelivery} {hidFirst : Bool} (h : SameTurn d d' hidFirst)
    (h' : SameTurn d' d'' hidFirst) :
    SameTurn d d'' hidFirst := by
  refine ⟨h'.count.trans h.count, ?_⟩
  have hother := h.other
  have hother' := h'.other
  cases hidFirst with
  | true => exact hother'.trans hother
  | false => exact hother'.trans hother

theorem sameTurn_after {hidFirst : Bool} : ∀ {events : List DeliveryEvent} {d : InputDelivery},
    (∀ event ∈ events, event.keepsTurn hidFirst = true) →
      (∀ entry ∈ trace step d events, entry.2.offered = none) →
    SameTurn d (after step d events) hidFirst
  | [], d, _, _ => ⟨rfl, by cases hidFirst <;> rfl⟩
  | event :: events, d, hkeeps, h => by
    rw [after_cons]
    have hfirst := sameTurn_step (hkeeps event (.head _)) (h _ (.head _))
    exact hfirst.trans (sameTurn_after (fun event hevent => hkeeps event (List.mem_cons_of_mem _ hevent))
      fun entry hentry => h entry (List.mem_cons_of_mem _ hentry))

/-- The queue that is offered again offers the same head. -/
theorem sameHead_of_kept {d d' : InputDelivery} {report report' : BleScheduledReport} (hkept : Kept d d')
    (h : d.offered = some report) (h' : d'.offered = some report') (hkind : report'.isHid = report.isHid) :
    report.SameHead report' := by
  rcases offered_cases h with ⟨head, rest, hbefore, rfl, -⟩ | ⟨head, rest, hbefore, rfl, -⟩
  · rcases offered_cases h' with ⟨head', rest', hafter, rfl, -⟩ | ⟨head', rest', hafter, rfl, -⟩
    · obtain ⟨rest'', hrest''⟩ := hkept.hid head rest hbefore
      obtain ⟨rfl, -⟩ := List.cons.inj (hafter.symm.trans hrest'')
      rfl
    · cases hkind
  · rcases offered_cases h' with ⟨head', rest', hafter, rfl, -⟩ | ⟨head', rest', hafter, rfl, -⟩
    · cases hkind
    · obtain ⟨grown, rest'', hrest'', hsequence, howner⟩ := hkept.wheel head rest hbefore
      obtain ⟨rfl, -⟩ := List.cons.inj (hafter.symm.trans hrest'')
      exact ⟨hsequence, howner⟩

/-- With its turn, the same queue is offered again. -/
theorem sameKind_of_sameTurn {d d' : InputDelivery} {report report' : BleScheduledReport}
    (hkept : Kept d d')
    (hturn : SameTurn d d' report.isHid) (h : d.offered = some report) (h' : d'.offered = some report') :
    report'.isHid = report.isHid := by
  have hsend :
    ∀ first hasWheel, d'.scheduler.shouldSendHid first hasWheel =
    d.scheduler.shouldSendHid first hasWheel := by
    intro first hasWheel
    rw [BleInputScheduler.shouldSendHid, BleInputScheduler.shouldSendHid, hturn.count, hkept.config]
  rcases offered_cases h with ⟨head, rest, hbefore, rfl, hallowed⟩ | ⟨head, rest, hbefore, rfl, hrefused⟩
  · have hwheel : d'.wheelReports = d.wheelReports := hturn.other
    obtain ⟨rest', hrest'⟩ := hkept.hid head rest hbefore
    have hagain := offered_hid hrest' (by rw [hsend, hwheel]; exact hallowed)
    rw [h'] at hagain
    cases hagain
    rfl
  · have hhid : d'.hidReports = d.hidReports := hturn.other
    obtain ⟨head', rest', hrest', -, -⟩ := hkept.wheel head rest hbefore
    have hagain :=
      offered_wheel hrest' (fun first hfirst => by
      rw [hsend]; exact hrefused first (by rw [← hhid]; exact hfirst))
    rw [h'] at hagain
    cases hagain
    rfl

/-- After a refusal nothing has moved. -/
theorem Attempt.of_refused {d d' : InputDelivery} {report : BleScheduledReport}
    {result : BleInputPollResult}
    (h : Attempt d report result d') (hresult : result.Refused) :
    d'.hidReports = d.hidReports ∧ d'.wheelReports = d.wheelReports ∧
    d'.scheduler.consecutiveHid = d.scheduler.consecutiveHid := by
  cases h with
  | hid hboth => rcases hresult with rfl | rfl | rfl <;> rcases hboth with h | h <;> cases h
  | chunk => rcases hresult with h | h | h <;> cases h
  | wheelDropped => rcases hresult with h | h | h <;> cases h
  | refused _ hhid hwheel hcount => exact ⟨hhid, hwheel, hcount⟩

/-! ## Reports before a wheel chunk -/

/-- An accepted HID report that is not a release. -/
def plainAccepted : Shown → Bool
  | (_, .polled .accepted (some (.hid _ _ _ reportClass _))) => !releaseMustKeepOrder reportClass
  | _ => false

/-- How many of them a run shows. -/
def plainCount (seen : List Shown) : Nat := (seen.filter plainAccepted).length

theorem kept_nonempty {d d' : InputDelivery} (h : Kept d d') (hwaiting : d.wheelReports.waiting ≠ []) :
    d'.wheelReports.waiting ≠ [] := by
  obtain ⟨head, rest, hhead⟩ := List.exists_cons_of_ne_nil hwaiting
  obtain ⟨head', rest', hhead', -, -⟩ := h.wheel head rest hhead
  rw [hhead']
  exact List.cons_ne_nil _ _

/-- One event while movement waits, without a chunk of it: a plain report uses up one of the turns. -/
structure TakesTurn (d d' : InputDelivery) (plain : Bool) : Prop where
  config : d'.scheduler.config = d.scheduler.config
  waiting : d'.wheelReports.waiting ≠ []
  counted : d.scheduler.consecutiveHid ≤ d'.scheduler.consecutiveHid
  turn : plain = true → d.scheduler.consecutiveHid < d.scheduler.config.maximumConsecutiveHid.toNat ∧
    d'.scheduler.consecutiveHid = d.scheduler.consecutiveHid + 1

theorem TakesTurn.of_quiet {d d' : InputDelivery} {plain : Bool} (hkept : Kept d d')
    (hwaiting : d.wheelReports.waiting ≠ [])
    (hcount : d'.scheduler.consecutiveHid = d.scheduler.consecutiveHid) (hplain : plain = false) :
    TakesTurn d d' plain :=
  ⟨hkept.config, kept_nonempty hkept hwaiting, Nat.le_of_eq hcount.symm,
    fun h => by rw [hplain] at h; cases h⟩

theorem takesTurn_attempt {d d' : InputDelivery} {nowUs : UInt64} {tx : BleInputTxResult}
    {report : BleScheduledReport}
    {result : BleInputPollResult} (h : Attempt d report result d')
    (hconfig : d'.scheduler.config = d.scheduler.config)
    (hwaiting : d.wheelReports.waiting ≠ [])
    (hchunk : chunkBy (.poll nowUs tx, .polled result (some report)) = none) :
    TakesTurn d d' (plainAccepted (.poll nowUs tx, .polled result (some report))) := by
  cases h with
  | hid hresult hreport hbefore hafter hwheel hsend hcount =>
    rename_i head rest
    subst hreport
    have hsome : d.wheelReports.reports.front?.isSome = true := by
      rw [Ring.front?_eq]
      obtain ⟨first, others, hfirst⟩ := List.exists_cons_of_ne_nil hwaiting
      rw [MouseWheelQueue.waiting] at hfirst
      rw [hfirst]
      rfl
    have hmax := d.scheduler.config.maximumConsecutiveHid.toNat_lt
    simp only [BleInputScheduler.noteHid] at hcount
    refine ⟨hconfig, by rw [hwheel]; exact hwaiting, by rw [hcount]; split <;> omega, fun hplain => ?_⟩
    have hclass : releaseMustKeepOrder head.reportClass = false := by
      rcases hresult with rfl | rfl
      · simpa [plainAccepted, scheduledHid] using hplain
      · cases hplain
    simp only [BleInputScheduler.shouldSendHid, hsome, hclass,
      Bool.not_true, Bool.false_or, decide_eq_true_eq] at hsend
    refine ⟨hsend, ?_⟩
    rw [hcount, if_pos (by omega)]
  | chunk hreport => subst hreport; cases hchunk
  | wheelDropped hreport => subst hreport; cases hchunk
  | refused hresult hhid hwheel hcount =>
    refine .of_quiet (.of_eq hconfig hhid hwheel) hwaiting hcount ?_
    rcases hresult with rfl | rfl | rfl <;> rfl

theorem takesTurn_step {d : InputDelivery} {event : DeliveryEvent} (hwaiting : d.wheelReports.waiting ≠ [])
    (hreset : event.isReset = false) (hchunk : chunkBy (event, (d.step event).1) = none) :
    TakesTurn d (d.step event).2 (plainAccepted (event, (d.step event).1)) := by
  cases event with
  | pushClassified report reportClass =>
    exact .of_quiet (kept_pushClassified d report reportClass) hwaiting rfl rfl
  | push report reservedFreeSlots => exact .of_quiet (kept_push d report reservedFreeSlots) hwaiting rfl rfl
  | pushWheel movement => exact .of_quiet (kept_pushWheel d movement) hwaiting rfl rfl
  | setConnectionInterval intervalUnits valid =>
    exact .of_quiet (.of_eq (config_setConnectionInterval d.scheduler intervalUnits valid) rfl rfl) hwaiting
      (count_setConnectionInterval d.scheduler intervalUnits valid) rfl
  | resetDeliveryClock => cases hreset
  | markDisconnected => cases hreset
  | takeStateResyncRequired => exact .of_quiet (.of_eq rfl rfl rfl) hwaiting rfl rfl
  | poll nowUs tx =>
    have heffect := d.poll_effect nowUs.toNat fun _ => tx
    simp only [step] at hchunk ⊢
    generalize d.poll nowUs.toNat (fun _ => tx) = outcome at heffect hchunk
    cases heffect with
    | still hresult => rcases hresult with rfl | rfl <;> exact .of_quiet (.refl d) hwaiting rfl rfl
    | attempt hoffered hdue hattempt hticked =>
      exact takesTurn_attempt hattempt hticked.config hwaiting hchunk

/-- While movement waits, the plain reports use up what is left of the turns. -/
theorem plainCount_le : ∀ {events : List DeliveryEvent} {d : InputDelivery}, d.wheelReports.waiting ≠ [] →
    (∀ event ∈ events, event.isReset = false) → (∀ entry ∈ trace step d events, chunkBy entry = none) →
    plainCount (trace step d events) = 0 ∨
      d.scheduler.consecutiveHid + plainCount (trace step d events) ≤
        d.scheduler.config.maximumConsecutiveHid.toNat
  | [], _, _, _, _ => .inl rfl
  | event :: events, d, hwaiting, hreset, hchunk => by
    have hturn := takesTurn_step hwaiting (hreset event (.head _)) (hchunk _ (.head _))
    have hrest :=
      plainCount_le hturn.waiting (fun event hevent => hreset event (List.mem_cons_of_mem _ hevent))
      fun entry hentry => hchunk entry (List.mem_cons_of_mem _ hentry)
    rw [hturn.config] at hrest
    have hcounted := hturn.counted
    rw [trace, plainCount, List.filter_cons]
    by_cases hplain : plainAccepted (event, (d.step event).1) = true
    · have hone := hturn.turn hplain
      rw [if_pos hplain, List.length_cons]
      rw [plainCount] at hrest
      omega
    · rw [if_neg hplain]
      rw [plainCount] at hrest
      omega

/-! ## Every run -/

/-- What a run from the start shows, and where it ends. -/
def shown (config : BleInputSchedulerConfig) (events : List DeliveryEvent) : List Shown :=
  trace step (start config) events

def reached (config : BleInputSchedulerConfig) (events : List DeliveryEvent) : InputDelivery :=
  after step (start config) events

/-- What holds of every run of the scheduler. -/
structure Delivered (config : BleInputSchedulerConfig) (events : List DeliveryEvent) : Prop where
  /-- The reports that were accepted or dropped, and those that wait, are those that were queued. -/
  hid : (hidTaken (shown config events)).map Prod.fst ++
    (reached config events).hidReports.waiting.map scheduledHid =
    (hidQueued (shown config events)).map scheduledHid
  wheel : Conserved (wheelRuns (shown config events)) (chunksTaken (shown config events))
    (reached config events).wheelReports.waiting
  chunk : ∀ pre event post result sequence vertical horizontal bleOwner, events = pre ++ event :: post →
    ((reached config pre).step event).1 =
      .polled result (some (.mouseWheel sequence vertical horizontal bleOwner)) →
    (-config.clamped.wheelChunkLimit ≤ vertical ∧ vertical ≤ config.clamped.wheelChunkLimit) ∧
      (-config.clamped.wheelChunkLimit ≤ horizontal ∧ horizontal ≤ config.clamped.wheelChunkLimit)
  /-- A refusal leaves both queues as they are. -/
  refused : ∀ pre nowUs tx post result report, events = pre ++ .poll nowUs tx :: post →
    ((reached config pre).step (.poll nowUs tx)).1 = .polled result (some report) → result.Refused →
    (reached config (pre ++ [.poll nowUs tx])).hidReports = (reached config pre).hidReports ∧
      (reached config (pre ++ [.poll nowUs tx])).wheelReports = (reached config pre).wheelReports
  /-- The next attempt is at the same head, if it is at the same queue, as it is without a push to the
  other queue and without a reset. -/
  again : ∀ pre t₁ tx₁ mid t₂ tx₂ post result report result' report',
    events = pre ++ .poll t₁ tx₁ :: (mid ++ .poll t₂ tx₂ :: post) →
    ((reached config pre).step (.poll t₁ tx₁)).1 = .polled result (some report) → result.Refused →
    (∀ entry ∈ trace step (reached config (pre ++ [.poll t₁ tx₁])) mid, entry.2.offered = none) →
    ((reached config (pre ++ .poll t₁ tx₁ :: mid)).step (.poll t₂ tx₂)).1 = .polled result' (some report') →
    (report'.isHid = report.isHid → report.SameHead report') ∧
      ((∀ event ∈ mid, event.keepsTurn report.isHid = true) → report'.isHid = report.isHid)
  /-- Two attempts without a reset between them are the period then in force or the longest back-off
  apart, if the clock goes that far. -/
  apart : ∀ pre t₁ tx₁ mid t₂ tx₂ post result report result' report',
    events = pre ++ .poll t₁ tx₁ :: (mid ++ .poll t₂ tx₂ :: post) →
    ((reached config pre).step (.poll t₁ tx₁)).1 = .polled result (some report) →
      (∀ event ∈ mid, event.isReset = false) →
    ((reached config (pre ++ .poll t₁ tx₁ :: mid)).step (.poll t₂ tx₂)).1 = .polled result' (some report') →
    min (t₁.toNat + min (reached config (pre ++ .poll t₁ tx₁ :: mid)).scheduler.deliveryPeriodUs
      config.clamped.maximumRetryBackoffUs) u64Max ≤ t₂.toNat
  /-- While movement waits and none of it is taken, at most `maximum_consecutive_hid` reports besides
  releases are accepted. -/
  fair : ∀ pre mid post, events = pre ++ mid ++ post → (reached config pre).wheelReports.waiting ≠ [] →
    (∀ event ∈ mid, event.isReset = false) →
      (∀ entry ∈ trace step (reached config pre) mid, chunkBy entry = none) →
    plainCount (trace step (reached config pre) mid) ≤ config.clamped.maximumConsecutiveHid.toNat

theorem accounted_run (config : BleInputSchedulerConfig) (events : List DeliveryEvent) :
    Accounted config (shown config events) (reached config events) := by
  have h :=
    trace_induction (I := Accounted config)
    (fun _ _ event h => h.step event) events (accounted_start config)
  rw [List.nil_append] at h
  exact h

theorem config_reached (config : BleInputSchedulerConfig) (events : List DeliveryEvent) :
    (reached config events).scheduler.config = config.clamped := (accounted_run config events).config

theorem reached_concat (config : BleInputSchedulerConfig) (pre : List DeliveryEvent)
    (event : DeliveryEvent) :
    reached config (pre ++ [event]) = ((reached config pre).step event).2 := after_concat _ _ _

theorem reached_cons (config : BleInputSchedulerConfig) (pre mid : List DeliveryEvent)
    (event : DeliveryEvent) :
    reached config (pre ++ event :: mid) = after step ((reached config pre).step event).2 mid := by
  rw [reached, after_append, after_cons]
  rfl

/-- Only a poll offers a report. -/
theorem poll_of_offered {d : InputDelivery} {event : DeliveryEvent} {result : BleInputPollResult}
    {report : BleScheduledReport}
    (h : (d.step event).1 = .polled result (some report)) : ∃ nowUs tx, event = .poll nowUs tx := by
  cases event with
  | poll nowUs tx => exact ⟨nowUs, tx, rfl⟩
  | pushClassified => cases h
  | push => cases h
  | pushWheel => cases h
  | setConnectionInterval => cases h
  | resetDeliveryClock => cases h
  | markDisconnected => cases h
  | takeStateResyncRequired => cases h

theorem chunk_bounds {d : InputDelivery} {event : DeliveryEvent} {result : BleInputPollResult}
    {sequence : UInt32}
    {vertical horizontal : Int} {bleOwner : BleOwnerToken}
    (h : (d.step event).1 = .polled result (some (.mouseWheel sequence vertical horizontal bleOwner))) :
    (-d.scheduler.config.wheelChunkLimit ≤ vertical ∧ vertical ≤ d.scheduler.config.wheelChunkLimit) ∧
      (-d.scheduler.config.wheelChunkLimit ≤ horizontal ∧
        horizontal ≤ d.scheduler.config.wheelChunkLimit) := by
  obtain ⟨nowUs, tx, rfl⟩ := poll_of_offered h
  have hlimit := Int.le_of_lt d.scheduler.config.wheelChunk_pos
  rcases offered_cases (offered_poll h).1 with ⟨head, rest, -, heq, -⟩ | ⟨head, rest, -, heq, -⟩
  · cases heq
  · cases heq
    exact ⟨MouseWheelQueue.clamp_bounds hlimit _, MouseWheelQueue.clamp_bounds hlimit _⟩

theorem offered_again {d : InputDelivery} {t₁ t₂ : UInt64} {tx₁ tx₂ : BleInputTxResult}
    {mid : List DeliveryEvent}
    {result result' : BleInputPollResult} {report report' : BleScheduledReport}
    (h : (d.step (.poll t₁ tx₁)).1 = .polled result (some report)) (hrefused : result.Refused)
    (hmid : ∀ entry ∈ trace step (d.step (.poll t₁ tx₁)).2 mid, entry.2.offered = none)
    (h' : ((after step (d.step (.poll t₁ tx₁)).2 mid).step (.poll t₂ tx₂)).1 =
      .polled result' (some report')) :
    (report'.isHid = report.isHid → report.SameHead report') ∧
      ((∀ event ∈ mid, event.keepsTurn report.isHid = true) → report'.isHid = report.isHid) := by
  obtain ⟨hoffered, -, hattempt, hticked⟩ := offered_poll h
  obtain ⟨hhid, hwheel, hcount⟩ := hattempt.of_refused hrefused
  have hkept := (Kept.of_eq hticked.config hhid hwheel).trans (kept_after hmid)
  have hoffered' := (offered_poll h').1
  refine ⟨sameHead_of_kept hkept hoffered hoffered', fun hturns => ?_⟩
  have hfirst : SameTurn d (d.step (.poll t₁ tx₁)).2 report.isHid := by
    refine ⟨hcount, ?_⟩
    cases report.isHid with
    | true => exact hwheel
    | false => exact hhid
  exact sameKind_of_sameTurn hkept (hfirst.trans (sameTurn_after hturns hmid)) hoffered hoffered'

/-- Every run delivers its input: in order, in full, in its own time and by turns. -/
theorem input_delivered (config : BleInputSchedulerConfig) (events : List DeliveryEvent) :
    Delivered config events where
  hid := (accounted_run config events).hid
  wheel := (accounted_run config events).wheel
  chunk := by
    intro pre event post result sequence vertical horizontal bleOwner heq h
    have hbounds := chunk_bounds h
    rw [config_reached] at hbounds
    exact hbounds
  refused := by
    intro pre nowUs tx post result report heq h hrefused
    rw [reached_concat]
    have hsame := (offered_poll h).2.2.1.of_refused hrefused
    exact ⟨hsame.1, hsame.2.1⟩
  again := by
    intro pre t₁ tx₁ mid t₂ tx₂ post result report result' report' heq h hrefused hmid h'
    rw [reached_concat] at hmid
    rw [reached_cons] at h'
    exact offered_again h hrefused hmid h'
  apart := by
    intro pre t₁ tx₁ mid t₂ tx₂ post result report result' report' heq h hreset h'
    have hconfig := config_reached config (pre ++ .poll t₁ tx₁ :: mid)
    rw [reached_cons] at h' hconfig ⊢
    have hapart := attempts_apart h hreset h'
    rw [shortestDelayUs, hconfig] at hapart
    exact hapart
  fair := by
    intro pre mid post heq hwaiting hreset hchunk
    have hcount := plainCount_le hwaiting hreset hchunk
    rw [config_reached] at hcount
    omega

/-! ## Another queue in between, and the end of the clock -/

/-- Three reports are accepted and the fourth is refused; then the wheel moves. -/
def otherQueueRun : List DeliveryEvent :=
  List.replicate 4 (.push ⟨0x11, [7], 0, {}, 0⟩ 0) ++
    [.poll 0 .accepted, .poll 30000 .accepted, .poll 60000 .accepted, .poll 90000 .retryableBusy,
      .pushWheel { vertical := 5, horizontal := 0 }]

/-- Two reports at the last value of the clock. -/
def lastInstantRun : List DeliveryEvent :=
  List.replicate 2 (.push ⟨0x11, [7], 0, {}, 0⟩ 0) ++ [.poll 18446744073709551615 .accepted]

/-- While a wheel movement waits, three reports are accepted, the clock is reset, and two more are
accepted. -/
def restartedRun : List DeliveryEvent :=
  .pushWheel { vertical := 5, horizontal := 0 } :: List.replicate 6 (.push ⟨0x11, [7], 0, {}, 0⟩ 0) ++
    [.poll 0 .accepted, .poll 30000 .accepted, .poll 60000 .accepted, .resetDeliveryClock,
      .poll 90000 .accepted, .poll 120000 .accepted]

/-- The refused report is not offered next: the wheel is; at the end of the clock two attempts come
at one time; and after a reset the reports have three more turns, so that the sixth goes before the
wheel. -/
theorem refused_head_not_next :
    ((reached {} (otherQueueRun.take 7)).step (.poll 90000 .retryableBusy)).1 =
      .polled .retryable (some (.hid 4 0x11 [7] .appCommand {})) ∧
    ((reached {} otherQueueRun).step (.poll 120000 .accepted)).1 =
      .polled .accepted (some (.mouseWheel 1 5 0 {})) ∧
    ((reached {} (lastInstantRun.take 2)).step (.poll 18446744073709551615 .accepted)).1 =
      .polled .accepted (some (.hid 1 0x11 [7] .appCommand {})) ∧
    ((reached {} lastInstantRun).step (.poll 18446744073709551615 .accepted)).1 =
      .polled .accepted (some (.hid 2 0x11 [7] .appCommand {})) ∧
    ((reached {} restartedRun).step (.poll 150000 .accepted)).1 =
      .polled .accepted (some (.hid 6 0x11 [7] .appCommand {})) := by
  decide +kernel

end InputDelivery

end CodexKeyboard.Keyboard
