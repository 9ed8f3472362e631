import CodexKeyboard.Keyboard.HeldKeyboard
/-!
# No stuck and no lost key

The held keys, the snapshot that is due (`components/keyboard/src/keyboard_snapshot_delivery.cpp`)
and the report queue, coupled the way `app_main.cpp` couples them: a change of the held keys sets
the snapshot that is desired, and a flush offers it to the queue.

| here | there |
| --- | --- |
| `setDesired`, `pendingSnapshot`, `markAccepted` | keyboard_snapshot_delivery.cpp:39, 53, 64 |
| `classifyTransition`, `advanceGeneration` | keyboard_snapshot_delivery.cpp:92, 103 |
| `KeyDelivery.dispatch` | `dispatch_held_keyboard_event` (app_main.cpp:1397) |
| `KeyDelivery.flush` | `flush_pending_keyboard_snapshot` (app_main.cpp:1370) |
| `HidKeyboardSnapshot.bytes` | `queue_keyboard_report_for_epoch` (usb_hid.cpp:408) |
-/

namespace CodexKeyboard.Keyboard

open Lib

/-! ## The snapshot that is due -/

structure KeyboardSnapshotDelivery where
  desired : HidKeyboardSnapshot := {}
  accepted : HidKeyboardSnapshot := {}
  generationCounter : UInt32 := 0
  pendingGeneration : UInt32 := 0
deriving DecidableEq, Repr

structure PendingKeyboardSnapshot where
  snapshot : HidKeyboardSnapshot := {}
  reportClass : HidReportClass := .keyboardPress
  generation : UInt32 := 0
deriving DecidableEq, Repr

/-- `contains_keycode` (keyboard_snapshot_delivery.cpp:9). -/
def HidKeyboardSnapshot.containsKeycode (snapshot : HidKeyboardSnapshot) (keycode : UInt8) : Bool :=
  keycode ≠ 0 && snapshot.keycodes.toList.contains keycode

/-- `removes_keyboard_usage` (keyboard_snapshot_delivery.cpp:17). -/
def removesKeyboardUsage (accepted desired : HidKeyboardSnapshot) : Bool :=
  accepted.modifier &&& ~~~desired.modifier ≠ 0 || (accepted.appleFn && !desired.appleFn)
    || accepted.keycodes.toList.any fun keycode => keycode ≠ 0 && !desired.containsKeycode keycode

def classifyTransition (accepted desired : HidKeyboardSnapshot) : HidReportClass :=
  if desired.empty then .keyboardAllReleased
  else if removesKeyboardUsage accepted desired then .keyboardRelease else .keyboardPress

namespace KeyboardSnapshotDelivery

def pending (delivery : KeyboardSnapshotDelivery) : Bool := delivery.pendingGeneration ≠ 0

def advanceGeneration (delivery : KeyboardSnapshotDelivery) : KeyboardSnapshotDelivery :=
  let counter :=
    if delivery.generationCounter = 0xFFFFFFFF then 1
    else if delivery.generationCounter + 1 = 0 then 1 else delivery.generationCounter + 1
  { delivery with generationCounter := counter, pendingGeneration := counter }

def setDesired (delivery : KeyboardSnapshotDelivery) (snapshot : HidKeyboardSnapshot) :
    KeyboardSnapshotDelivery :=
  if snapshot = delivery.desired then delivery
  else if snapshot = delivery.accepted then { delivery with desired := snapshot, pendingGeneration := 0 }
  else { delivery with desired := snapshot }.advanceGeneration

def pendingSnapshot (delivery : KeyboardSnapshotDelivery) : PendingKeyboardSnapshot :=
  if delivery.pending = false then {}
  else ⟨delivery.desired, classifyTransition delivery.accepted delivery.desired, delivery.pendingGeneration⟩

def markAccepted (delivery : KeyboardSnapshotDelivery) (generation : UInt32) :
    Bool × KeyboardSnapshotDelivery :=
  if delivery.pending = false ∨ generation = 0 ∨ generation ≠ delivery.pendingGeneration then
    (false, delivery)
  else (true, { delivery with accepted := delivery.desired, pendingGeneration := 0 })

/-- A snapshot is due exactly while the desired one has not been accepted. -/
def Sound (delivery : KeyboardSnapshotDelivery) : Prop :=
  delivery.pendingGeneration ≠ 0 ↔ delivery.desired ≠ delivery.accepted

variable {delivery : KeyboardSnapshotDelivery}

theorem advanceGeneration_ne_zero (delivery : KeyboardSnapshotDelivery) :
    delivery.advanceGeneration.pendingGeneration ≠ 0 := by
  unfold advanceGeneration
  dsimp only
  split
  · decide
  · split
    · decide
    · assumption

theorem Sound.setDesired (h : delivery.Sound) (snapshot : HidKeyboardSnapshot) :
    (delivery.setDesired snapshot).Sound := by
  unfold KeyboardSnapshotDelivery.setDesired
  split
  · exact h
  · split
    · rename_i heq
      simp [Sound, heq]
    · rename_i hne
      exact ⟨fun _ => hne, fun _ => advanceGeneration_ne_zero _⟩

@[simp] theorem desired_setDesired (delivery : KeyboardSnapshotDelivery) (snapshot : HidKeyboardSnapshot) :
    (delivery.setDesired snapshot).desired = snapshot := by
  unfold KeyboardSnapshotDelivery.setDesired
  split
  · exact Eq.symm ‹_›
  · split <;> rfl

@[simp] theorem accepted_setDesired (delivery : KeyboardSnapshotDelivery) (snapshot : HidKeyboardSnapshot) :
    (delivery.setDesired snapshot).accepted = delivery.accepted := by
  unfold KeyboardSnapshotDelivery.setDesired
  split
  · rfl
  · split <;> rfl

theorem pending_iff : delivery.pending = true ↔ delivery.pendingGeneration ≠ 0 := by simp [pending]

theorem Sound.ne_of_pending (h : delivery.Sound) (hpending : delivery.pending = true) :
    delivery.desired ≠ delivery.accepted :=
  h.mp (pending_iff.mp hpending)

theorem Sound.eq_of_idle (h : delivery.Sound) (hidle : delivery.pending = false) :
    delivery.desired = delivery.accepted := by
  by_contra hne
  rw [pending_iff.mpr (h.mpr hne)] at hidle
  cases hidle

theorem pendingSnapshot_of_pending (h : delivery.pending = true) :
    delivery.pendingSnapshot
      = ⟨delivery.desired, classifyTransition delivery.accepted delivery.desired,
        delivery.pendingGeneration⟩ := by
  rw [pendingSnapshot, if_neg (by simp [h])]

theorem pendingSnapshot_of_idle (h : delivery.pending = false) : delivery.pendingSnapshot = {} := by
  rw [pendingSnapshot, if_pos h]

/-- The generation of the pending snapshot is accepted. -/
theorem markAccepted_pending (h : delivery.pending = true) :
    delivery.markAccepted delivery.pendingGeneration
      = (true, { delivery with accepted := delivery.desired, pendingGeneration := 0 }) := by
  have hne := pending_iff.mp h
  rw [markAccepted, if_neg]
  rintro (hidle | hzero | hother)
  · rw [h] at hidle
    cases hidle
  · exact hne hzero
  · exact hother rfl

end KeyboardSnapshotDelivery

/-! ## On the wire -/

def reportIdKeyboard : UInt8 := 1

/-- The eight bytes of a snapshot. -/
def HidKeyboardSnapshot.bytes (snapshot : HidKeyboardSnapshot) : List UInt8 :=
  [snapshot.modifier, if snapshot.appleFn then 1 else 0] ++ snapshot.keycodes.toList

theorem HidKeyboardSnapshot.bytes_injective {left right : HidKeyboardSnapshot}
    (h : left.bytes = right.bytes) : left = right := by
  simp only [bytes, List.cons_append, List.nil_append, List.cons.injEq] at h
  obtain ⟨hmodifier, hfn, hkeycodes⟩ := h
  have hfn' : left.appleFn = right.appleFn := by
    cases hl : left.appleFn <;> cases hr : right.appleFn <;> simp [hl, hr] at hfn ⊢
  have hkeycodes' : left.keycodes = right.keycodes := Vector.toList_inj.mp hkeycodes
  cases left
  cases right
  simp_all

theorem HidKeyboardSnapshot.length_bytes (snapshot : HidKeyboardSnapshot) :
    snapshot.bytes.length = keyboardSnapshotPayloadSize := by
  rw [bytes, List.length_append, Vector.length_toList]
  rfl

/-- Empty is the snapshot without anything. -/
theorem HidKeyboardSnapshot.empty_iff {snapshot : HidKeyboardSnapshot} :
    snapshot.empty = true ↔ snapshot = {} := by
  constructor
  · intro h
    simp only [empty, Bool.and_eq_true, decide_eq_true_eq, Bool.not_eq_true', List.all_eq_true] at h
    obtain ⟨⟨hmodifier, hfn⟩, hkeycodes⟩ := h
    have hzeros : snapshot.keycodes = .replicate keycodeCount 0 := by
      refine Vector.ext fun i hi => ?_
      rw [Vector.getElem_replicate]
      exact hkeycodes _ (Vector.mem_toList_iff.mpr (Vector.getElem_mem hi))
    cases snapshot
    simp_all
  · rintro rfl
    decide

/-- What the host holds down after these keyboard reports; before the first of them, nothing. -/
def shown (reports : List QueuedHidReport) : List UInt8 :=
  ((reports.filter (·.reportClass.isKeyboardSnapshot)).getLast?.map (·.data)).getD
    ({} : HidKeyboardSnapshot).bytes

theorem shown_concat_snapshot (reports : List QueuedHidReport) {report : QueuedHidReport}
    (h : report.reportClass.isKeyboardSnapshot = true) : shown (reports ++ [report]) = report.data := by
  simp [shown, List.filter_append, h]

theorem shown_concat_command (reports : List QueuedHidReport) {report : QueuedHidReport}
    (h : report.reportClass.isKeyboardSnapshot = false) : shown (reports ++ [report]) = shown reports := by
  simp [shown, List.filter_append, h]

/-! ## The coupled system -/

/-- `delivered` is what the transport has taken from the queue. -/
structure KeyDelivery where
  held : HeldKeyboardState := {}
  delivery : KeyboardSnapshotDelivery := {}
  queue : HidReportQueue := .start
  delivered : List QueuedHidReport := []

inductive KeyEvent where
  | press (source : Nat) (report : HidKeyboardReport)
  | release (source : Nat)
  | clear
  | flush (queuedMs : UInt32) (bleOwner : BleOwnerToken) (usbEpoch : UInt32)
  | appCommand (report : HidReport) (reportClass : HidReportClass)
  | pop (sequence : UInt32)
deriving DecidableEq, Repr

inductive KeyAnswer where
  | update (update : HeldKeyboardUpdate)
  | pushed (result : HidQueuePushResult)
  | popped (done : Bool)
  | nothing
deriving DecidableEq, Repr

namespace KeyDelivery

/-- A change of the held keys is desired from now on. -/
def dispatch (s : KeyDelivery) (changed : HeldKeyboardUpdate × HeldKeyboardState) : KeyDelivery :=
  { s with
    held := changed.2
    delivery :=
      if changed.1.accepted = false then s.delivery
      else if changed.1.stateChanged = false ∨ changed.1.reportChanged = false then s.delivery
      else s.delivery.setDesired changed.1.snapshot }

/-- The report of a snapshot, for one endpoint. -/
def snapshotReport (snapshot : HidKeyboardSnapshot) (queuedMs : UInt32) (bleOwner : BleOwnerToken)
    (usbEpoch : UInt32) :
    HidReport :=
  { reportId := reportIdKeyboard, data := snapshot.bytes, queuedMs, bleOwner, usbEpoch }

/-- Offers the pending snapshot to the queue. -/
def flush (s : KeyDelivery) (queuedMs : UInt32) (bleOwner : BleOwnerToken) (usbEpoch : UInt32) :
    KeyAnswer × KeyDelivery :=
  let due := s.delivery.pendingSnapshot
  if due.generation = 0 then (.nothing, s)
  else
    let (result, queue) :=
      s.queue.pushClassified (snapshotReport due.snapshot queuedMs bleOwner usbEpoch) due.reportClass
    (.pushed result,
      if result.accepted then { s with queue, delivery := (s.delivery.markAccepted due.generation).2 }
      else { s with queue })

/-- One event; only app classes are pushed as app commands. -/
def step (s : KeyDelivery) : KeyEvent → KeyAnswer × KeyDelivery
  | .press source report =>
    (.update (s.held.press source report).1, s.dispatch (s.held.press source report))
  | .release source => (.update (s.held.release source).1, s.dispatch (s.held.release source))
  | .clear =>
    (.update s.held.clear.1, { s with held := s.held.clear.2, delivery := s.delivery.setDesired {} })
  | .flush queuedMs bleOwner usbEpoch => s.flush queuedMs bleOwner usbEpoch
  | .appCommand report reportClass =>
    if reportClass.isAppCommand = false then (.nothing, s)
    else
      let (result, queue) := s.queue.pushClassified report reportClass
      (.pushed result, { s with queue })
  | .pop sequence =>
    let (done, queue) := s.queue.popIfSequence sequence
    (.popped done,
      { s with queue, delivered := s.delivered ++ if done then s.queue.reports.front?.toList else [] })

/-- All reports that the queue took, delivered and waiting. -/
def stream (s : KeyDelivery) : List QueuedHidReport := s.delivered ++ s.queue.waiting

/-! ## The invariant -/

/-- The desired snapshot is that of the held keys, the accepted one is the latest the queue took,
and the last slot is only ever taken by the snapshot that releases everything. -/
structure Coupled (s : KeyDelivery) : Prop where
  held : s.held.Sound
  delivery : s.delivery.Sound
  desired : s.delivery.desired = s.held.current
  latest : shown s.stream = s.delivery.accepted.bytes
  last_slot : s.queue.size = hidReportQueueCapacity → s.delivery.accepted = {}

theorem coupled_start : Coupled {} where
  held := HeldKeyboardState.sound_start
  delivery := by simp [KeyboardSnapshotDelivery.Sound]
  desired := rfl
  latest := rfl
  last_slot hfull := by cases hfull

variable {s : KeyDelivery}

theorem Coupled.dispatch (h : s.Coupled) {changed : HeldKeyboardUpdate × HeldKeyboardState}
    (hsound : changed.2.Sound)
    (heffect : s.held.UpdateEffect changed) : (s.dispatch changed).Coupled := by
  cases heffect with
  | refused update hunchanged =>
    have hsame : (s.dispatch (update, s.held)).delivery = s.delivery := by
      simp [KeyDelivery.dispatch, hunchanged]
    exact ⟨hsound, hsame ▸ h.delivery, hsame ▸ h.desired, hsame ▸ h.latest, hsame ▸ h.last_slot⟩
  | applied t becameEmpty =>
    by_cases hreport : t.current = s.held.current
    · have hsame : (s.dispatch (s.held.applied t becameEmpty, t)).delivery = s.delivery := by
        simp [KeyDelivery.dispatch, HeldKeyboardState.applied, hreport]
      exact ⟨hsound, hsame ▸ h.delivery, hsame ▸ h.desired.trans hreport.symm,
        hsame ▸ h.latest, hsame ▸ h.last_slot⟩
    · have hset :
        (s.dispatch (s.held.applied t becameEmpty, t)).delivery = s.delivery.setDesired t.current := by
        simp [KeyDelivery.dispatch, HeldKeyboardState.applied, HeldKeyboardUpdate.accepted, hreport]
      refine ⟨hsound, hset ▸ h.delivery.setDesired t.current, ?_, ?_, ?_⟩
      · rw [hset, KeyboardSnapshotDelivery.desired_setDesired]
        rfl
      · rw [hset, KeyboardSnapshotDelivery.accepted_setDesired]
        exact h.latest
      · rw [hset, KeyboardSnapshotDelivery.accepted_setDesired]
        exact h.last_slot

theorem Coupled.clear (h : s.Coupled) : (step s .clear).2.Coupled := by
  have hcurrent : s.held.clear.2.current = {} := by
    unfold HeldKeyboardState.clear
    split
    · rename_i hnone
      exact h.held.current_of_empty (by simpa [HeldKeyboardState.empty] using hnone)
    · rfl
  refine ⟨h.held.clear, h.delivery.setDesired {}, ?_, ?_, ?_⟩
  · show (s.delivery.setDesired {}).desired = s.held.clear.2.current
    rw [KeyboardSnapshotDelivery.desired_setDesired, hcurrent]
  · show shown s.stream = (s.delivery.setDesired {}).accepted.bytes
    rw [KeyboardSnapshotDelivery.accepted_setDesired]
    exact h.latest
  · show s.queue.size = _ → (s.delivery.setDesired {}).accepted = {}
    rw [KeyboardSnapshotDelivery.accepted_setDesired]
    exact h.last_slot

/-- A snapshot that is due is not the one at the tail. -/
theorem Coupled.not_sameTail (h : s.Coupled) (hpending : s.delivery.pending = true) {report : HidReport}
    (hdata : report.data = s.delivery.desired.bytes) (sequence : UInt32) :
    ¬ s.queue.SameTail report sequence := by
  rintro ⟨tail, htail, -, hclass, -, hsame, -⟩
  obtain ⟨rest, hrest⟩ := List.getLast?_eq_some_iff.mp htail
  have hshown := h.latest
  rw [stream, hrest, ← List.append_assoc, shown_concat_snapshot _ hclass, hsame, hdata] at hshown
  exact h.delivery.ne_of_pending hpending (HidKeyboardSnapshot.bytes_injective hshown)

/-- Only the snapshot that releases everything may take the last slot. -/
theorem keyboardAllReleased_of_capacity {accepted desired : HidKeyboardSnapshot}
    (h : hidReportQueueCapacity ≤ (classifyTransition accepted desired).capacity) : desired = {} := by
  unfold classifyTransition at h
  by_cases hempty : desired.empty = true
  · exact HidKeyboardSnapshot.empty_iff.mp hempty
  · rw [if_neg hempty] at h
    split at h <;> exact absurd h (by decide)

theorem isKeyboardSnapshot_classifyTransition (accepted desired : HidKeyboardSnapshot) :
    (classifyTransition accepted desired).isKeyboardSnapshot = true := by
  unfold classifyTransition
  split
  · rfl
  · split <;> rfl

theorem Coupled.flush (h : s.Coupled) (queuedMs : UInt32) (bleOwner : BleOwnerToken) (usbEpoch : UInt32) :
    (s.flush queuedMs bleOwner usbEpoch).2.Coupled := by
  unfold KeyDelivery.flush
  by_cases hpending : s.delivery.pending = true
  · rw [KeyboardSnapshotDelivery.pendingSnapshot_of_pending hpending]
    simp only [if_neg (KeyboardSnapshotDelivery.pending_iff.mp hpending)]
    rw [KeyboardSnapshotDelivery.markAccepted_pending hpending]
    have heffect :=
      s.queue.pushClassified_effect (snapshotReport s.delivery.desired queuedMs bleOwner usbEpoch)
      (classifyTransition s.delivery.accepted s.delivery.desired)
    generalize s.queue.pushClassified (snapshotReport s.delivery.desired queuedMs bleOwner usbEpoch)
      (classifyTransition s.delivery.accepted s.delivery.desired) = outcome at heffect
    cases heffect with
    | invalid => exact h
    | full => exact h
    | coalesced sequence _ hmatches =>
      exact absurd (HidReportQueue.tailMatches_eq_some hmatches) (h.not_sameTail hpending rfl sequence)
    | queued hsize =>
      have hroom := Nat.lt_of_lt_of_le hsize (HidReportClass.capacity_le _)
      refine ⟨h.held, ?_, h.desired, ?_, ?_⟩
      · show (0 : UInt32) ≠ 0 ↔ s.delivery.desired ≠ s.delivery.desired
        simp
      · show shown (s.delivered ++ (s.queue.append _ _).waiting) = s.delivery.desired.bytes
        rw [HidReportQueue.waiting_append hroom, ← List.append_assoc,
          shown_concat_snapshot _ (isKeyboardSnapshot_classifyTransition _ _)]
        rfl
      · show (s.queue.append _ _).size = _ → s.delivery.desired = {}
        rw [HidReportQueue.size_append hroom]
        intro hfull
        have hlast :
          hidReportQueueCapacity ≤
          (classifyTransition s.delivery.accepted s.delivery.desired).capacity := by
          omega
        exact keyboardAllReleased_of_capacity hlast
  · rw [KeyboardSnapshotDelivery.pendingSnapshot_of_idle (by simpa using hpending)]
    exact h

theorem Coupled.appCommand (h : s.Coupled) (report : HidReport) (reportClass : HidReportClass) :
    (step s (.appCommand report reportClass)).2.Coupled := by
  rw [step]
  split
  · exact h
  · rename_i hcommand
    have hclass : reportClass.isKeyboardSnapshot = false := by
      rw [HidReportClass.isAppCommand_eq] at hcommand
      simpa using hcommand
    have hlimit : reportClass.capacity < hidReportQueueCapacity := by
      cases reportClass <;> first | decide | cases hclass
    have heffect := s.queue.pushClassified_effect report reportClass
    generalize s.queue.pushClassified report reportClass = outcome at heffect
    cases heffect with
    | invalid => exact h
    | full => exact h
    | coalesced => exact h
    | queued hsize =>
      refine ⟨h.held, h.delivery, h.desired, ?_, ?_⟩
      · show shown (s.delivered ++ (s.queue.append _ _).waiting) = s.delivery.accepted.bytes
        rw [HidReportQueue.waiting_append (by omega), ← List.append_assoc, shown_concat_command _ hclass]
        exact h.latest
      · show (s.queue.append _ _).size = _ → s.delivery.accepted = {}
        rw [HidReportQueue.size_append (by omega)]
        intro hfull
        omega

theorem Coupled.pop (h : s.Coupled) (sequence : UInt32) : (step s (.pop sequence)).2.Coupled := by
  rw [step]
  rcases s.queue.popIfSequence_cases sequence with heq | ⟨head, rest, hwaiting, -, heq, hrest, hsize⟩
  · rw [heq]
    simp only [Bool.false_eq_true, if_false, List.append_nil]
    exact h
  · have hstream : s.delivered ++ s.queue.reports.front?.toList ++ rest = s.stream := by
      have hfront : s.queue.reports.front? = some head := by
        rw [Ring.front?_eq]
        exact congrArg List.head? hwaiting
      rw [hfront, stream, hwaiting]
      simp
    rw [heq] at hrest hsize ⊢
    have hle := s.queue.size_le
    refine ⟨h.held, h.delivery, h.desired, ?_, ?_⟩
    · rw [← h.latest, ← hstream, ← hrest]
      rfl
    · intro hfull
      dsimp only at hsize hfull
      omega

theorem Coupled.step (event : KeyEvent) (h : s.Coupled) : (step s event).2.Coupled := by
  cases event with
  | press source report => exact h.dispatch (h.held.press source report) (s.held.press_effect source report)
  | release source => exact h.dispatch (h.held.release source) (s.held.release_effect source)
  | clear => exact h.clear
  | flush queuedMs bleOwner usbEpoch => exact h.flush queuedMs bleOwner usbEpoch
  | appCommand report reportClass => exact h.appCommand report reportClass
  | pop sequence => exact h.pop sequence

theorem coupled_after (events : List KeyEvent) : (after KeyDelivery.step {} events).Coupled :=
  after_induction (fun _ event h => h.step event) events coupled_start

/-! ## What the run of events holds down -/

/-- What the sources hold down after an event: a press that is taken is held until its source or all
are released. -/
def next (holding : Holding) : KeyEvent → Holding
  | .press source report => holding.press source report
  | .release source => holding.release source
  | .clear => fun _ => none
  | .flush _ _ _ | .appCommand _ _ | .pop _ => holding

/-- What the sources hold down after a run, by its events alone. -/
def holding (events : List KeyEvent) : Holding := events.foldl next fun _ => none

theorem held_flush (s : KeyDelivery) (queuedMs : UInt32) (bleOwner : BleOwnerToken) (usbEpoch : UInt32) :
    (s.flush queuedMs bleOwner usbEpoch).2.held = s.held := by
  rw [KeyDelivery.flush]
  dsimp only
  split
  · rfl
  · split <;> rfl

theorem Coupled.holding_step (h : s.Coupled) (event : KeyEvent) :
    (KeyDelivery.step s event).2.held.holding = next s.held.holding event := by
  cases event with
  | press source report => exact (s.held.press_spec source report).1
  | release source => exact (h.held.release_spec source).1
  | clear => exact h.held.holding_clear
  | flush queuedMs bleOwner usbEpoch =>
    exact congrArg HeldKeyboardState.holding (s.held_flush queuedMs bleOwner usbEpoch)
  | appCommand report reportClass =>
    rw [KeyDelivery.step]
    split <;> rfl
  | pop sequence => rfl

/-- The tables hold what the events say. -/
theorem holding_after (events : List KeyEvent) :
    (after KeyDelivery.step {} events).held.holding = holding events := by
  induction events using List.reverseRecOn with
  | nil =>
    funext i
    simp [holding, HeldKeyboardState.holding]
  | append_singleton events event ih =>
    rw [after_concat, (coupled_after events).holding_step, ih, holding, holding, List.foldl_concat]

/-! ## Over every run -/

/-- With no source held, releasing everything is done or will be taken by the queue. -/
theorem Coupled.release_due (h : s.Coupled) (hempty : s.held.empty = true) :
    (s.delivery.pending = false ∧ s.delivery.accepted = {})
    ∨ (s.delivery.pending = true ∧ s.delivery.pendingSnapshot.snapshot = {}
      ∧ s.delivery.pendingSnapshot.reportClass = .keyboardAllReleased
      ∧ ∀ queuedMs bleOwner usbEpoch,
        (s.queue.pushClassified
          (snapshotReport {} queuedMs bleOwner usbEpoch) .keyboardAllReleased).1.accepted = true) := by
  have hdesired : s.delivery.desired = {} := h.desired.trans (h.held.current_of_empty hempty)
  by_cases hpending : s.delivery.pending = true
  · have hother := h.delivery.ne_of_pending hpending
    rw [hdesired] at hother
    have hdue : s.delivery.pendingSnapshot = ⟨{}, .keyboardAllReleased, s.delivery.pendingGeneration⟩ := by
      rw [KeyboardSnapshotDelivery.pendingSnapshot_of_pending hpending, hdesired, classifyTransition,
        if_pos (HidKeyboardSnapshot.empty_iff.mpr rfl)]
    have hroom : s.queue.size < HidReportClass.keyboardAllReleased.capacity := by
      have hle := s.queue.size_le
      have hlimit : HidReportClass.keyboardAllReleased.capacity = hidReportQueueCapacity := rfl
      have hnot : s.queue.size ≠ hidReportQueueCapacity := fun hfull => hother (h.last_slot hfull).symm
      omega
    refine .inr ⟨hpending, by rw [hdue], by rw [hdue], fun queuedMs bleOwner usbEpoch => ?_⟩
    have hzero : isAllZero ({} : HidKeyboardSnapshot).bytes = true := by decide
    exact HidReportQueue.accepted_pushClassified rfl (HidKeyboardSnapshot.length_bytes _)
      (fun _ => hzero) hroom
  · have hidle : s.delivery.pending = false := by simpa using hpending
    exact .inl ⟨hidle, (h.delivery.eq_of_idle hidle).symm.trans hdesired⟩

/-- **Keys get through.** Over every run: a press is applied exactly if it has something to send,
its source is idle and the keys fit, one that is refused for its keys changes nothing, and a release
frees its source and is never refused; the snapshot is the union of what the presses and releases of
the run hold down; the accepted snapshot is the latest the queue took; with nothing held the
snapshot that releases everything is never refused; and once nothing is due and the queue has
drained the host holds down exactly that union. -/
theorem keys_get_through (events : List KeyEvent) :
    (∀ source report,
      (((after step {} events).held.press source report).1.status = .applied ↔
        (holding events).Takes source report)
      ∧ (((after step {} events).held.press source report).1.status = .rollover ↔
          report.usable = true ∧ (holding events).Idle source ∧
          ¬ ((holding events).put source (some report)).Fits)
      ∧ (((after step {} events).held.press source report).1.status = .rollover →
          (step (after step {} events) (.press source report)).2 = after step {} events))
    ∧ (∀ source, ((after step {} events).held.release source).1.status ≠ .rollover
      ∧ (((after step {} events).held.release source).1.status = .applied ↔
          source < keyboardStateSourceCount ∧ ¬ (holding events).Idle source))
    ∧ (after step {} events).held.current.UnionOf (holding events).reports
    ∧ shown (after step {} events).stream = (after step {} events).delivery.accepted.bytes
    ∧ ((∀ source, holding events source = none) →
        ((after step {} events).delivery.pending = false ∧ (after step {} events).delivery.accepted = {})
        ∨ ((after step {} events).delivery.pending = true
          ∧ (after step {} events).delivery.pendingSnapshot.snapshot = {}
          ∧ (after step {} events).delivery.pendingSnapshot.reportClass = .keyboardAllReleased
          ∧ ∀ queuedMs bleOwner usbEpoch,
            ((after step {} events).queue.pushClassified (snapshotReport {} queuedMs bleOwner usbEpoch)
              .keyboardAllReleased).1.accepted = true))
    ∧ ((after step {} events).delivery.pending = false → (after step {} events).queue.size = 0 →
        shown (after step {} events).delivered = (after step {} events).held.current.bytes) := by
  have h := coupled_after events
  rw [← holding_after events]
  generalize after step {} events = s at h
  refine ⟨fun source report => ?_,
    fun source => ⟨h.held.release_ne_rollover source, (h.held.release_spec source).2⟩,
    h.held.union, h.latest, fun hnone => h.release_due ?_, ?_⟩
  · obtain ⟨-, happlied, hover⟩ := s.held.press_spec source report
    refine ⟨happlied, hover, fun hrollover => ?_⟩
    have heffect := s.held.press_effect source report
    show s.dispatch (s.held.press source report) = s
    generalize s.held.press source report = changed at heffect hrollover
    cases heffect with
    | refused update hunchanged => simp [dispatch, hunchanged]
    | applied t becameEmpty => cases hrollover
  · rw [h.held.empty_iff, ← HeldKeyboardState.reports_holding, Holding.reports, List.filterMap_eq_nil_iff]
    exact fun source _ => hnone source
  · intro hidle hdrained
    have hempty :
      s.queue.waiting = [] := List.eq_nil_of_length_eq_zero (s.queue.length_waiting.trans hdrained)
    have hlatest := h.latest
    rw [stream, hempty, List.append_nil] at hlatest
    rw [hlatest, ← h.delivery.eq_of_idle hidle, h.desired]

/-- The report of one key. -/
def keyReport (keycode : UInt8) : HidKeyboardReport := { valid := true, keycode }

/-- Shift-A is held, B comes and goes, six keys more do not fit, and everything is delivered. -/
def typing : List KeyEvent :=
  [.press 0 { keyReport 4 with modifier := 2 }, .flush 0 {} 1, .press 1 (keyReport 5),
    .flush 1 {} 1, .release 1,
    .flush 2 {} 1, .press 2 { valid := true, keycodes := #v[6, 7, 8, 9, 10, 11] }, .pop 1, .pop 2, .pop 3]

/-- After the typing the host holds down Shift-A, which source 0 holds. -/
theorem keys_get_through_typing :
    shown (after step {} typing).delivered = (after step {} typing).held.current.bytes ∧
      (after step {} typing).held.current.UnionOf [{ keyReport 4 with modifier := 2 }] ∧
      ((after step {} typing).held.press 1 (keyReport 5)).1.status = .applied := by
  obtain ⟨hpress, -, hunion, -, -, hdrained⟩ := keys_get_through typing
  have hreports : (holding typing).reports = [{ keyReport 4 with modifier := 2 }] := by decide +kernel
  have hidle : (after step {} typing).delivery.pending = false := by decide +kernel
  have hempty : (after step {} typing).queue.size = 0 := by decide +kernel
  have htakes : (holding typing).Takes 1 (keyReport 5) := by decide +kernel
  exact ⟨hdrained hidle hempty, hreports ▸ hunion, (hpress 1 (keyReport 5)).1.2 htakes⟩

end KeyDelivery

end CodexKeyboard.Keyboard
