import CodexKeyboard.Keyboard.HidReportQueue
/-!
# The queue of wheel movement

`MouseWheelQueue` (hid_report_queue.cpp:248-346): movement in one direction is added to the latest
entry, a change of direction starts a new one, and the scheduler takes the head away in chunks.
Adding saturates and says so; the first movement of an entry is clamped without a word
(hid_report_queue.cpp:297).

| here | there |
| --- | --- |
| `saturatingWheelAdd`, `sameOrEmptyDirection`, `validConsumption` | hid_report_queue.cpp:49-79 |
| `MouseWheelQueue.push`, `consumeIfSequence`, `popIfSequence` | hid_report_queue.cpp:248, 319, 338 |
-/

namespace CodexKeyboard.Keyboard

open Lib

def mouseWheelQueueCapacity : Nat := 32
def mouseWheelAccumulationLimit : Int := 32767

/-- `std::clamp`. -/
def clamp (value low high : Int) : Int := if value < low then low else if high < value then high else value

/-- `saturating_wheel_add`, and whether it saturated. -/
def saturatingWheelAdd (current incoming : Int) : Int × Bool :=
  if current + incoming > mouseWheelAccumulationLimit then (mouseWheelAccumulationLimit, true)
  else if current + incoming < -mouseWheelAccumulationLimit then (-mouseWheelAccumulationLimit, true)
  else (current + incoming, false)

/-- `same_or_empty_direction`. -/
def sameOrEmptyDirection (current incoming : Int) : Bool :=
  current = 0 || incoming = 0 || decide (current > 0) == decide (incoming > 0)

/-- `valid_consumption`. -/
def validConsumption (pending consumed : Int) : Bool :=
  consumed = 0 || (pending ≠ 0 && decide (pending > 0) == decide (consumed > 0) &&
    decide (consumed.natAbs ≤ pending.natAbs))

/-- The arguments of a push. -/
structure WheelMovement where
  vertical : Int
  horizontal : Int
  queuedMs : UInt32 := 0
  bleOwner : BleOwnerToken := {}
  usbEpoch : UInt32 := 0
deriving DecidableEq, Repr

structure QueuedMouseWheel extends WheelMovement where
  sequence : UInt32
deriving DecidableEq, Repr

/-- What a push returns, and what it writes through its pointers. -/
structure WheelPushResult where
  taken : Bool
  sequence : Option UInt32 := none
  coalesced : Bool := false
  saturated : Bool := false
deriving DecidableEq, Repr

structure MouseWheelQueue where
  reports : Ring QueuedMouseWheel mouseWheelQueueCapacity
  nextSequence : UInt32

namespace MouseWheelQueue

/-- A slot that holds no movement. -/
def blank : QueuedMouseWheel := { vertical := 0, horizontal := 0, sequence := 0 }

def start : MouseWheelQueue := { reports := .empty blank (by decide), nextSequence := 1 }

def size (queue : MouseWheelQueue) : Nat := queue.reports.size

/-- The entries that wait, oldest first. -/
def waiting (queue : MouseWheelQueue) : List QueuedMouseWheel := queue.reports.toList

/-- Whether the movement is added to the entry. -/
def joins (movement : WheelMovement) (tail : QueuedMouseWheel) : Bool :=
  decide (tail.bleOwner = movement.bleOwner) && decide (tail.usbEpoch = movement.usbEpoch) &&
    sameOrEmptyDirection tail.vertical movement.vertical &&
      sameOrEmptyDirection tail.horizontal movement.horizontal

/-- The entry with the movement added. -/
def joined (movement : WheelMovement) (tail : QueuedMouseWheel) : QueuedMouseWheel :=
  { tail with
    vertical := (saturatingWheelAdd tail.vertical movement.vertical).1
    horizontal := (saturatingWheelAdd tail.horizontal movement.horizontal).1 }

/-- A new entry for the movement. -/
def opened (movement : WheelMovement) (sequence : UInt32) : QueuedMouseWheel :=
  { movement with
    sequence
    vertical := clamp movement.vertical (-mouseWheelAccumulationLimit) mouseWheelAccumulationLimit
    horizontal := clamp movement.horizontal (-mouseWheelAccumulationLimit) mouseWheelAccumulationLimit }

/-- `push`. -/
def push (queue : MouseWheelQueue) (movement : WheelMovement) : WheelPushResult × MouseWheelQueue :=
  if movement.vertical = 0 ∧ movement.horizontal = 0 then ({ taken := false }, queue)
  else
    match queue.reports.back?.filter (joins movement) with
    | some tail =>
      ({ taken := true
         sequence := some tail.sequence
         coalesced := true
         saturated := (saturatingWheelAdd tail.vertical movement.vertical).2 ||
           (saturatingWheelAdd tail.horizontal movement.horizontal).2 },
       { queue with reports := queue.reports.replace (queue.size - 1) (joined movement tail) })
    | none =>
      if queue.size ≥ mouseWheelQueueCapacity then ({ taken := false }, queue)
      else
        ({ taken := true, sequence := some queue.nextSequence },
         { reports := queue.reports.push (opened movement queue.nextSequence)
           nextSequence := if queue.nextSequence + 1 = 0 then 1 else queue.nextSequence + 1 })

/-- `pop_if_sequence`. -/
def popIfSequence (queue : MouseWheelQueue) (sequence : UInt32) : Bool × MouseWheelQueue :=
  match queue.reports.front? with
  | none => (false, queue)
  | some head =>
    if head.sequence ≠ sequence then (false, queue)
    else (true, { queue with reports := queue.reports.pop blank })

/-- `consume_if_sequence`. -/
def consumeIfSequence (queue : MouseWheelQueue) (sequence : UInt32) (vertical horizontal : Int) :
    Bool × MouseWheelQueue :=
  match queue.reports.front? with
  | none => (false, queue)
  | some head =>
    if head.sequence ≠ sequence then (false, queue)
    else if validConsumption head.vertical vertical = false ∨
    validConsumption head.horizontal horizontal = false then
      (false, queue)
    else
      let rest :=
        { head with vertical := head.vertical - vertical, horizontal := head.horizontal - horizontal }
      let consumed := { queue with reports := queue.reports.replace 0 rest }
      if rest.vertical = 0 ∧ rest.horizontal = 0 then consumed.popIfSequence sequence else (true, consumed)

/-! ## What the operations do -/

@[simp] theorem waiting_start : start.waiting = [] := rfl

theorem length_waiting (queue : MouseWheelQueue) : queue.waiting.length = queue.size :=
  queue.reports.length_toList

/-- What a push does, case by case. -/
inductive PushEffect (queue : MouseWheelQueue) (movement : WheelMovement) :
    WheelPushResult × MouseWheelQueue → Prop where
  | refused : PushEffect queue movement ({ taken := false }, queue)
  | coalesced {init : List QueuedMouseWheel} {tail : QueuedMouseWheel} {after : MouseWheelQueue}
      (hwaiting : queue.waiting = init ++ [tail])
      (hafter : after.waiting = init ++ [joined movement tail]) :
      PushEffect queue movement
        ({ taken := true
           sequence := some tail.sequence
           coalesced := true
           saturated := (saturatingWheelAdd tail.vertical movement.vertical).2 ||
             (saturatingWheelAdd tail.horizontal movement.horizontal).2 }, after)
  | queued {after : MouseWheelQueue}
    (hafter : after.waiting = queue.waiting ++ [opened movement queue.nextSequence]) :
      PushEffect queue movement ({ taken := true, sequence := some queue.nextSequence }, after)

theorem push_effect (queue : MouseWheelQueue) (movement : WheelMovement) :
    PushEffect queue movement (queue.push movement) := by
  unfold push
  by_cases hnone : movement.vertical = 0 ∧ movement.horizontal = 0
  · rw [if_pos hnone]
    exact .refused
  rw [if_neg hnone]
  cases htail : queue.reports.back?.filter (joins movement) with
  | some tail =>
    have hback : queue.reports.back? = some tail := (Option.filter_eq_some_iff.1 htail).1
    rw [Ring.back?_eq] at hback
    obtain ⟨init, hinit⟩ := List.getLast?_eq_some_iff.1 hback
    have hsize : queue.size = init.length + 1 := by
      rw [← length_waiting, waiting, hinit, List.length_append, List.length_singleton]
    refine .coalesced hinit ?_
    have hlast : queue.size - 1 < queue.reports.size := by
      change queue.size - 1 < queue.size
      omega
    rw [waiting, Ring.toList_replace hlast, hinit, hsize, Nat.add_sub_cancel,
      List.set_append_right _ _ (Nat.le_refl _),
      Nat.sub_self, List.set_cons_zero]
  | none =>
    by_cases hfull : queue.size ≥ mouseWheelQueueCapacity
    · simp only [if_pos hfull]
      exact .refused
    · simp only [if_neg hfull]
      exact .queued (Ring.toList_push (by change queue.size < mouseWheelQueueCapacity; omega) _)

theorem popIfSequence_head {queue : MouseWheelQueue} {head : QueuedMouseWheel}
    {rest : List QueuedMouseWheel}
    (h : queue.waiting = head :: rest) :
    (queue.popIfSequence head.sequence).1 = true ∧
      (queue.popIfSequence head.sequence).2.waiting = rest := by
  have hfront : queue.reports.front? = some head := by
    rw [Ring.front?_eq]
    exact congrArg List.head? h
  simp only [popIfSequence, hfront, ne_eq, not_true_eq_false, if_false, true_and]
  rw [waiting, Ring.toList_pop]
  exact congrArg (List.drop 1) h

/-- The head after some of its movement was sent. -/
def remainder (head : QueuedMouseWheel) (vertical horizontal : Int) : QueuedMouseWheel :=
  { head with vertical := head.vertical - vertical, horizontal := head.horizontal - horizontal }

theorem consumeIfSequence_head {queue : MouseWheelQueue} {head : QueuedMouseWheel}
    {rest : List QueuedMouseWheel}
    {vertical horizontal : Int} (h : queue.waiting = head :: rest)
    (hvertical : validConsumption head.vertical vertical = true)
    (hhorizontal : validConsumption head.horizontal horizontal = true) :
    (queue.consumeIfSequence head.sequence vertical horizontal).1 = true ∧
      (queue.consumeIfSequence head.sequence vertical horizontal).2.waiting =
        if head.vertical - vertical = 0 ∧ head.horizontal - horizontal = 0 then rest
        else remainder head vertical horizontal :: rest := by
  have hfront : queue.reports.front? = some head := by
    rw [Ring.front?_eq]
    exact congrArg List.head? h
  have hsize : 0 < queue.reports.size := by
    have hlength := queue.length_waiting
    rw [h, List.length_cons] at hlength
    change 0 < queue.size
    omega
  have hreplaced : (queue.reports.replace 0 (remainder head vertical horizontal)).toList =
    remainder head vertical horizontal :: rest := by
    rw [Ring.toList_replace hsize]
    exact congrArg (fun l => l.set 0 (remainder head vertical horizontal)) h
  simp only [consumeIfSequence, hfront, hvertical, hhorizontal, ne_eq, not_true_eq_false, if_false,
    Bool.true_eq_false, or_self]
  by_cases hzero : head.vertical - vertical = 0 ∧ head.horizontal - horizontal = 0
  · simp only [if_pos hzero]
    have hwaiting :
      ({ queue with
        reports := queue.reports.replace 0 (remainder head vertical horizontal) } : MouseWheelQueue).waiting
        = remainder head vertical horizontal :: rest := hreplaced
    have hpop := popIfSequence_head hwaiting
    exact hpop
  · simp only [if_neg hzero, true_and]
    exact hreplaced

/-- A chunk of pending movement can always be taken from it. -/
theorem validConsumption_clamp {limit : Int} (h : 0 < limit) (pending : Int) :
    validConsumption pending (clamp pending (-limit) limit) = true := by
  unfold validConsumption clamp
  split
  · simp
    omega
  · split
    · simp
      omega
    · simp

theorem clamp_bounds {limit : Int} (h : 0 ≤ limit) (value : Int) :
    -limit ≤ clamp value (-limit) limit ∧ clamp value (-limit) limit ≤ limit := by
  unfold clamp
  split
  · omega
  · split <;> omega

theorem clamp_of_le {limit value : Int} (hlow : -limit ≤ value) (hhigh : value ≤ limit) :
    clamp value (-limit) limit = value := by
  rw [clamp, if_neg (by omega), if_neg (by omega)]

/-- Without saturation the movement is added as it is. -/
theorem saturatingWheelAdd_exact {current incoming : Int}
    (h : (saturatingWheelAdd current incoming).2 = false) :
    (saturatingWheelAdd current incoming).1 = current + incoming := by
  unfold saturatingWheelAdd at h ⊢
  split at h
  · cases h
  · rename_i hhigh
    rw [if_neg hhigh]
    split at h
    · cases h
    · rename_i hlow
      rw [if_neg hlow]

end MouseWheelQueue

end CodexKeyboard.Keyboard
