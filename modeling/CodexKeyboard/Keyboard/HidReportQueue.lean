import CodexKeyboard.Keyboard.SlotState
import CodexKeyboard.Lib.Ring
import CodexKeyboard.Lib.Run
import Mathlib.Data.Finset.Card
import Mathlib.Data.Fintype.Card
/-!
# The queue of HID reports

The ring of reports that wait for the transport (`components/keyboard/src/hid_report_queue.cpp`) and
the slots it keeps back for the releases of what is held.

| here | there |
| --- | --- |
| `HidReportClass.capacity` | `classified_capacity` (hid_report_queue.cpp:10) |
| `pushClassified`, `push`, `pushWithLimit` | `push_classified`, `push`, `push_with_limit` (83, 113, 140) |
| `tailMatches`, `popIfSequence` | `tail_matches`, `pop_if_sequence` (190, 222) |
| `HidQueuePushResult`, `QueuedHidReport` | hid_report_queue.h:63-86 |
-/

namespace CodexKeyboard.Keyboard

open Lib

instance : Fintype InputId where
  elems := {.key1, .key2, .key3, .key4, .key5, .key6, .key7, .key8,
    .encoderLeft, .encoderRight, .encoderPress}
  complete source := by cases source <;> decide

/-! ## Reports -/

def hidReportQueueCapacity : Nat := 32
def hidReportMaxPayload : Nat := 63
def keyboardStateSourceCount : Nat := 11
def keyboardSnapshotPayloadSize : Nat := 8

theorem card_inputId : Fintype.card InputId = keyboardStateSourceCount := by decide

/-- `BleOwnerToken`; by default that of a USB queue. -/
structure BleOwnerToken where
  connHandle : UInt16 := 0xFFFF
  generation : UInt32 := 0
deriving DecidableEq, Repr

inductive HidReportClass where
  | keyboardPress
  | keyboardRelease
  | keyboardAllReleased
  | appCommand
  | appCommandStatefulPress
  | appCommandStatefulRelease
deriving DecidableEq, Repr

namespace HidReportClass

/-- `classified_capacity` (hid_report_queue.cpp:10). -/
def capacity : HidReportClass → Nat
  | keyboardPress => hidReportQueueCapacity - keyboardStateSourceCount
  | appCommand | appCommandStatefulPress => hidReportQueueCapacity - 2 * keyboardStateSourceCount
  | keyboardRelease | appCommandStatefulRelease => hidReportQueueCapacity - 1
  | keyboardAllReleased => hidReportQueueCapacity

def isKeyboardSnapshot (reportClass : HidReportClass) : Bool :=
  reportClass = keyboardPress || reportClass = keyboardRelease || reportClass = keyboardAllReleased

def isAppCommand (reportClass : HidReportClass) : Bool :=
  reportClass = appCommand || reportClass = appCommandStatefulPress || reportClass =
    appCommandStatefulRelease

theorem capacity_pos (reportClass : HidReportClass) : 0 < reportClass.capacity := by
  cases reportClass <;> decide

theorem capacity_le (reportClass : HidReportClass) : reportClass.capacity ≤ hidReportQueueCapacity := by
  cases reportClass <;> decide

theorem isAppCommand_eq (reportClass : HidReportClass) :
    reportClass.isAppCommand = !reportClass.isKeyboardSnapshot := by
  cases reportClass <;> decide

end HidReportClass

/-- The arguments of a push besides its class. -/
structure HidReport where
  reportId : UInt8
  data : List UInt8
  queuedMs : UInt32 := 0
  bleOwner : BleOwnerToken := {}
  usbEpoch : UInt32 := 0
deriving DecidableEq, Repr

/-- `QueuedHidReport`; `data` holds its first `len` bytes. -/
structure QueuedHidReport extends HidReport where
  sequence : UInt32
  reportClass : HidReportClass
deriving DecidableEq, Repr

/-- `is_all_zero` (hid_report_queue.cpp:42). -/
def isAllZero (data : List UInt8) : Bool := 0 < data.length && data.all (· = 0)

inductive HidQueuePushStatus where
  | queued
  | coalesced
  | full
  | invalid
deriving DecidableEq, Repr

structure HidQueuePushResult where
  status : HidQueuePushStatus := .invalid
  sequence : UInt32 := 0
deriving DecidableEq, Repr

def HidQueuePushResult.accepted (result : HidQueuePushResult) : Bool :=
  result.status = .queued || result.status = .coalesced

/-! ## The queue -/

structure HidReportQueue where
  reports : Ring QueuedHidReport hidReportQueueCapacity
  nextSequence : UInt32

namespace HidReportQueue

/-- A slot that holds no report. -/
def blank : QueuedHidReport := { reportId := 0, data := [], sequence := 0, reportClass := .appCommand }

def start : HidReportQueue := { reports := .empty blank (by decide), nextSequence := 1 }

def size (queue : HidReportQueue) : Nat := queue.reports.size

/-- The reports that wait, oldest first. -/
def waiting (queue : HidReportQueue) : List QueuedHidReport := queue.reports.toList

/-- `tail_matches` (hid_report_queue.cpp:190): the sequence of the latest report, if it is this
keyboard snapshot. -/
def tailMatches (queue : HidReportQueue) (report : HidReport) : Option UInt32 :=
  match queue.reports.back? with
  | none => none
  | some tail =>
    if report.data.length > hidReportMaxPayload then none
    else if tail.reportClass.isAppCommand ∨ tail.reportId ≠ report.reportId ∨
    tail.data.length ≠ report.data.length
        ∨ tail.bleOwner ≠ report.bleOwner ∨ tail.usbEpoch ≠ report.usbEpoch then none
    else if tail.data ≠ report.data then none
    else some tail.sequence

/-- The report takes the slot after the tail. -/
def append (queue : HidReportQueue) (report : HidReport) (reportClass : HidReportClass) : HidReportQueue :=
  { reports := queue.reports.push { report with sequence := queue.nextSequence, reportClass }
    nextSequence := if queue.nextSequence + 1 = 0 then 1 else queue.nextSequence + 1 }

/-- `push_with_limit` (hid_report_queue.cpp:140). -/
def pushWithLimit (queue : HidReportQueue) (report : HidReport) (reportClass : HidReportClass)
    (usableCapacity : Nat)
    (coalesceKeyboardSnapshot : Bool) : HidQueuePushResult × HidReportQueue :=
  if report.data.length > hidReportMaxPayload ∨ usableCapacity = 0 then ({}, queue)
  else
    match if coalesceKeyboardSnapshot then queue.tailMatches report else none with
    | some existingSequence => (⟨.coalesced, existingSequence⟩, queue)
    | none =>
      if queue.size ≥ usableCapacity then (⟨.full, 0⟩, queue)
      else (⟨.queued, queue.nextSequence⟩, queue.append report reportClass)

/-- `push_classified` (hid_report_queue.cpp:83). -/
def pushClassified (queue : HidReportQueue) (report : HidReport) (reportClass : HidReportClass) :
    HidQueuePushResult × HidReportQueue :=
  if report.data.length > hidReportMaxPayload then ({}, queue)
  else if reportClass.isKeyboardSnapshot ∧ report.data.length ≠ keyboardSnapshotPayloadSize then ({}, queue)
  else if reportClass = .keyboardAllReleased ∧ isAllZero report.data = false then ({}, queue)
  else queue.pushWithLimit report reportClass reportClass.capacity reportClass.isKeyboardSnapshot

/-- `push` (hid_report_queue.cpp:113), for callers that do not classify their reports. -/
def push (queue : HidReportQueue) (report : HidReport) (reservedFreeSlots : Nat) :
    HidQueuePushResult × HidReportQueue :=
  queue.pushWithLimit report .appCommand
    (if reservedFreeSlots ≥ hidReportQueueCapacity then 0 else
      hidReportQueueCapacity - reservedFreeSlots) false

/-- `pop_if_sequence` (hid_report_queue.cpp:222). -/
def popIfSequence (queue : HidReportQueue) (sequence : UInt32) : Bool × HidReportQueue :=
  match queue.reports.front? with
  | none => (false, queue)
  | some head =>
    if head.sequence ≠ sequence then (false, queue)
    else (true, { queue with reports := queue.reports.pop blank })

/-! ## What a push does -/

@[simp] theorem size_start : start.size = 0 := rfl

@[simp] theorem waiting_start : start.waiting = [] := rfl

theorem length_waiting (queue : HidReportQueue) : queue.waiting.length = queue.size :=
  queue.reports.length_toList

theorem size_le (queue : HidReportQueue) : queue.size ≤ hidReportQueueCapacity := queue.reports.size_le

/-- The tail is a keyboard snapshot with the bytes and the addressee of this report. -/
def SameTail (queue : HidReportQueue) (report : HidReport) (sequence : UInt32) : Prop :=
  ∃ tail, queue.waiting.getLast? = some tail ∧ tail.sequence = sequence ∧
  tail.reportClass.isKeyboardSnapshot = true
    ∧ tail.reportId = report.reportId ∧ tail.data = report.data ∧ tail.bleOwner = report.bleOwner
    ∧ tail.usbEpoch = report.usbEpoch

theorem tailMatches_eq_some {queue : HidReportQueue} {report : HidReport} {sequence : UInt32}
    (h : queue.tailMatches report = some sequence) : queue.SameTail report sequence := by
  unfold tailMatches at h
  rw [Ring.back?_eq] at h
  split at h
  · cases h
  · rename_i tail htail
    split at h
    · cases h
    · split at h
      · cases h
      · rename_i hsame
        split at h
        · cases h
        · rename_i hdata
          simp only [HidReportClass.isAppCommand_eq, Bool.not_eq_true', not_or, not_not] at hsame hdata
          cases h
          exact ⟨tail, htail, rfl, by simpa using hsame.1, hsame.2.1, hdata, hsame.2.2.2.1, hsame.2.2.2.2⟩

/-- What a classified push does, case by case. -/
inductive PushEffect (queue : HidReportQueue) (report : HidReport) (reportClass : HidReportClass) :
    HidQueuePushResult × HidReportQueue → Prop where
  | invalid : PushEffect queue report reportClass ({}, queue)
  | coalesced (sequence : UInt32) (hclass : reportClass.isKeyboardSnapshot = true)
      (hmatches : queue.tailMatches report = some sequence) :
      PushEffect queue report reportClass (⟨.coalesced, sequence⟩, queue)
  | full (hsize : reportClass.capacity ≤ queue.size) :
    PushEffect queue report reportClass (⟨.full, 0⟩, queue)
  | queued (hsize : queue.size < reportClass.capacity)
      (hmatches : reportClass.isKeyboardSnapshot = true → queue.tailMatches report = none) :
      PushEffect queue report reportClass (⟨.queued, queue.nextSequence⟩, queue.append report reportClass)

theorem pushClassified_effect (queue : HidReportQueue) (report : HidReport) (reportClass : HidReportClass) :
    PushEffect queue report reportClass (queue.pushClassified report reportClass) := by
  unfold pushClassified pushWithLimit
  split
  · exact .invalid
  · split
    · exact .invalid
    · split
      · exact .invalid
      · split
        · exact .invalid
        · split
          · rename_i sequence hmatches
            split at hmatches
            · rename_i hclass
              exact .coalesced sequence hclass hmatches
            · cases hmatches
          · rename_i hmatches
            split
            · rename_i hsize
              exact .full hsize
            · rename_i hsize
              refine .queued (by omega) fun hclass => ?_
              rw [if_pos hclass] at hmatches
              exact hmatches

/-- A report of the right shape, for a class whose slots are not used up, is taken. -/
theorem accepted_pushClassified {queue : HidReportQueue} {report : HidReport} {reportClass : HidReportClass}
    (hclass : reportClass.isKeyboardSnapshot = true)
    (hdata : report.data.length = keyboardSnapshotPayloadSize)
    (hzero : reportClass = .keyboardAllReleased → isAllZero report.data = true)
    (hsize : queue.size < reportClass.capacity) :
    (queue.pushClassified report reportClass).1.accepted = true := by
  have hpos := reportClass.capacity_pos
  have hmax : ¬ report.data.length > hidReportMaxPayload := by
    rw [hdata]
    decide
  have hshape : ¬ (reportClass = .keyboardAllReleased ∧ isAllZero report.data = false) := by
    rintro ⟨heq, hnot⟩
    rw [hzero heq] at hnot
    cases hnot
  rw [pushClassified, if_neg hmax, if_neg (by simp [hdata]), if_neg hshape, pushWithLimit,
    if_neg (not_or.mpr ⟨hmax, by omega⟩), if_pos hclass]
  split
  · rfl
  · rw [if_neg (by omega)]
    rfl

/-- A push is refused as full only for want of a slot of its class. -/
theorem size_of_full {queue : HidReportQueue} {report : HidReport} {reportClass : HidReportClass}
    (h : (queue.pushClassified report reportClass).1.status = .full) :
    reportClass.capacity ≤ queue.size := by
  have heffect := queue.pushClassified_effect report reportClass
  generalize queue.pushClassified report reportClass = outcome at heffect h
  cases heffect with
  | invalid => cases h
  | coalesced => cases h
  | full hsize => exact hsize
  | queued => cases h

theorem waiting_append {queue : HidReportQueue} (h : queue.size < hidReportQueueCapacity)
    (report : HidReport)
    (reportClass : HidReportClass) :
    (queue.append report reportClass).waiting
      = queue.waiting ++ [{ report with sequence := queue.nextSequence, reportClass }] :=
  Ring.toList_push h _

theorem size_append {queue : HidReportQueue} (h : queue.size < hidReportQueueCapacity) (report : HidReport)
    (reportClass : HidReportClass) : (queue.append report reportClass).size = queue.size + 1 :=
  Ring.size_push h _

/-- A push leaves the queue as it is, or adds one report to it. -/
theorem size_pushClassified_le (queue : HidReportQueue) (report : HidReport)
    (reportClass : HidReportClass) :
    (queue.pushClassified report reportClass).2.size ≤ queue.size + 1 := by
  have heffect := queue.pushClassified_effect report reportClass
  generalize queue.pushClassified report reportClass = outcome at heffect
  cases heffect with
  | invalid => exact Nat.le_succ _
  | coalesced => exact Nat.le_succ _
  | full => exact Nat.le_succ _
  | queued hsize =>
    exact Nat.le_of_eq (size_append (Nat.lt_of_lt_of_le hsize reportClass.capacity_le) report reportClass)

/-- What a pop does: it takes the head, or nothing. -/
theorem popIfSequence_cases (queue : HidReportQueue) (sequence : UInt32) :
    queue.popIfSequence sequence = (false, queue) ∨
    ∃ head rest, queue.waiting = head :: rest ∧ head.sequence = sequence
      ∧ queue.popIfSequence sequence = (true, { queue with reports := queue.reports.pop blank })
      ∧ (queue.popIfSequence sequence).2.waiting = rest ∧
      (queue.popIfSequence sequence).2.size + 1 = queue.size := by
  unfold popIfSequence
  rw [Ring.front?_eq]
  split
  · exact .inl rfl
  · rename_i head hhead
    split
    · exact .inl rfl
    · rename_i hsequence
      obtain ⟨rest, hrest⟩ := List.head?_eq_some_iff.mp hhead
      have hsize : queue.size = rest.length + 1 := by
        rw [← length_waiting, waiting, hrest]
        rfl
      refine .inr ⟨head, rest, hrest, not_not.mp hsequence, rfl, ?_, ?_⟩
      · simp [waiting, Ring.toList_pop, hrest]
      · simp only [size, Ring.size_pop] at hsize ⊢
        omega

theorem size_popIfSequence_le (queue : HidReportQueue) (sequence : UInt32) :
    (queue.popIfSequence sequence).2.size ≤ queue.size := by
  rcases queue.popIfSequence_cases sequence with heq | ⟨head, rest, -, -, -, -, hsize⟩
  · rw [heq]
  · omega

end HidReportQueue

end CodexKeyboard.Keyboard
